import WekaShareDriver.Foundation.May
import WekaShareDriver.Access.WekafsGuard
import WekaShareDriver.Access.Rules

/-! # When a WEKAFS share can fall open

With calls failing by any API error, an update that returns is sure to leave an
attached, non-empty policy exactly when it leaves some granted address alone:
one that no rule moves to the other level, no rule deletes, and no full sync
prunes (`WekaShareDriver.staysGuarded_iff`). Otherwise there is a choice of
failures with which every addition is believed to be done already while every
removal goes through.
-/

namespace WekaShareDriver

open Foundation Program

namespace PolicyState

variable {Address : Type} [DecidableEq Address] {state : PolicyState Address}
  {level level' : Level} {address kept : Address}

/-- Revoking grants nothing new, and not the revoked address. -/
theorem granted_of_revoke (granted : (state.revoke level address).Granted level' kept) :
    state.Granted level' kept ∧ (level' = level → kept ≠ address) := by
  by_cases same : level' = level
  · subst same
    obtain ⟨list', held', attached, member⟩ := granted
    cases held : state level' with
    | none =>
        rw [revoke_none held, held] at held'
        cases held'
    | some list =>
        by_cases last : list.addresses.erase address = ∅
        · rw [revoke_last held last, put_self] at held'
          cases held'
        · rw [revoke_more held last, put_self, Option.some.injEq] at held'
          subst held'
          have inside := Finset.mem_erase.mp member
          exact ⟨⟨list, held, attached, inside.2⟩, fun _ => inside.1⟩
  · unfold Granted at granted
    rw [revoke_of_ne same] at granted
    exact ⟨granted, fun equal => absurd equal same⟩

private theorem granted_of_removeAll {addresses : List Address}
    (granted : (state.removeAll addresses).Granted level kept) :
    state.Granted level kept ∧ kept ∉ addresses := by
  induction addresses generalizing state with
  | nil => exact ⟨granted, List.not_mem_nil⟩
  | cons first rest ih =>
      obtain ⟨removed, later⟩ := ih granted
      obtain ⟨removed', notRo⟩ := granted_of_revoke removed
      obtain ⟨before, notRw⟩ := granted_of_revoke removed'
      refine ⟨before, fun member => ?_⟩
      rcases List.mem_cons.mp member with equal | inside
      · cases level with
        | rw => exact notRw rfl equal
        | ro => exact notRo rfl equal
      · exact later inside

private theorem granted_of_revokeAll {addresses : List Address}
    (granted : (state.revokeAll level addresses).Granted level' kept) :
    state.Granted level' kept := by
  induction addresses generalizing state with
  | nil => exact granted
  | cons first rest ih => exact (granted_of_revoke (ih granted)).1

/-- Pruning grants nothing new and leaves only what a rule expects. -/
theorem granted_of_prune {rules : List (Level × Address)} {listing : Level → List Address}
    (complete : ∀ level, (listing level).toFinset = state.addressesAt level)
    (granted : (state.prune rules listing).Granted level kept) :
    state.Granted level kept ∧ (level, kept) ∈ rules := by
  have before := granted_of_revokeAll (granted_of_revokeAll granted)
  have listed := mem_addressesAt.mpr granted.listed
  exact ⟨before, ((mem_prune complete).mp listed).2⟩

end PolicyState

/-- Every request about policies can fail, with any API error. -/
def policyFaults : Fault := fun _ op error =>
  match op with
  | .api _ request => request.aboutPolicies = true ∧ isApiError error = true
  | _ => False

instance (w : World) (op : Op) (error : Error) : Decidable (policyFaults w op error) :=
  match op with
  | .api _ request => inferInstanceAs (Decidable (request.aboutPolicies = true ∧ isApiError error = true))
  | .login .. => inferInstanceAs (Decidable False)
  | .host _ => inferInstanceAs (Decidable False)

/-- An address that no step of an update removes from its level. -/
structure Untouched (update : AccessUpdate) (level : Level) (ip : String) : Prop where
  unmoved : (level.other, ip) ∉ policyRules update.applied
  undeleted : ip ∉ policyTargets update.deleteRules
  unpruned : update.fullSync = true → (level, ip) ∈ policyRules update.applied

/-- An update that never returns, since a rule it cannot read stops its pruning,
or that leaves some granted address alone. -/
def Guarded (update : AccessUpdate) (state : PolicyState String) : Prop :=
  (update.fullSync = true ∧ ∃ rule ∈ update.applied, rule.Malformed) ∨
    ∃ level ip, state.Granted level ip ∧ Untouched update level ip

/-- Whichever requests about policies fail, and with whichever API error: if the
update returns, an attached policy holds an address. -/
def StaysGuarded (cfg : Config) (share : Share) (fsUid : Uid) (update : AccessUpdate) (w : World) :
    Prop :=
  ∀ states t, Exec (service policyFaults) (update.program cfg share) w (.ok states) t →
    ∃ level ip, (sharePolicies cfg share fsUid t).Granted level ip

section Sufficient

variable {cfg : Config} {share : Share} {fsUid : Uid} {fault : Fault} {w : World}
  {session : Session} {mountPassword : String} {update : AccessUpdate} {level : Level}
  {ip : String}

/-- Whatever fails, an untouched address stays granted. -/
theorem wp_updateWekafsPolicies_keeps (untouched : Untouched update level ip)
    (granted : (policyState session share fsUid w).Granted level ip) :
    (updateWekafsPolicies session share (some fsUid) mountPassword update.applied
        update.deleteRules update.fullSync).wp (service fault) (passing fun _ => True)
      (ending (fun _ => Keeps session share fsUid level ip w) fun _ _ => True) w := by
  have start : Keeps session share fsUid level ip w w := ⟨.refl w, granted⟩
  unfold updateWekafsPolicies
  refine wp_weaken ?_ (fun t (_ : Keeps session share fsUid level ip w t) => trivial)
    (fun _ _ reached => reached) fun _ _ (_ : True) => trivial
  refine wp_bind_of (fun _ => Keeps session share fsUid level ip w) ?_ ?_
  · refine wp_foldlM (fun _ _ => Keeps session share fsUid level ip w) update.applied ?_
      (fun _ _ kept => kept) start
    intro visited rule rest states t split kept
    rw [onOk_ending]
    refine wp_weaken (wp_addWekafsRule_keeps kept fun found => untouched.unmoved ?_)
      (fun _ passed => passed) (fun _ _ reached => reached) fun _ _ _ => trivial
    exact mem_policyRules.mpr ⟨rule, by simp [split], found⟩
  intro states t kept
  refine wp_bind_of (fun _ => Keeps session share fsUid level ip w) ?_ ?_
  · refine wp_forM (fun _ => Keeps session share fsUid level ip w) update.deleteRules ?_
      (fun _ kept => kept) kept
    intro visited rule rest u split kept'
    rw [onOk_ending]
    refine wp_weaken (wp_removeWekafsRule_keeps kept' fun found => untouched.undeleted ?_)
      (fun _ passed => passed) (fun _ _ reached => reached) fun _ _ _ => trivial
    exact mem_policyTargets.mpr ⟨rule, by simp [split], found⟩
  intro _ u kept'
  cases full : update.fullSync with
  | false => exact kept'
  | true =>
      simp only [↓reduceIte]
      refine wp_bind_of (fun _ => Keeps session share fsUid level ip w) ?_ fun _ _ reached => reached
      by_cases malformed : ∃ rule ∈ update.applied, rule.Malformed
      · obtain ⟨error, raises⟩ := pruneWekafsRules_malformed session share fsUid malformed
        rw [raises]
        trivial
      · have readable : ∀ rule ∈ update.applied, ¬ rule.Malformed := by simpa using malformed
        have wanted := untouched.unpruned full
        have prune : ∀ (level' : Level) (v : World), Keeps session share fsUid level ip w v →
            (pruneLevel session share (some fsUid) (policyRules update.applied) level').wp
              (service fault) (passing (Keeps session share fsUid level ip w))
              (ending (fun _ => Keeps session share fsUid level ip w) fun _ _ => True) v := by
          intro level' v there
          exact wp_weaken (wp_pruneLevel_keeps there wanted) (fun _ passed => passed)
            (fun _ _ reached => reached) fun _ _ _ => trivial
        unfold pruneWekafsRules
        rw [expectedIps_eq readable, liftExcept, pure_bind]
        exact wp_bind_of _ (prune .rw u kept') fun _ v => prune .ro v

/-- A full sync with a rule it cannot read does not return. -/
theorem wp_updateWekafsPolicies_malformed {rules deleteRules : List AccessRule}
    (malformed : ∃ rule ∈ rules, rule.Malformed) :
    (updateWekafsPolicies session share (some fsUid) mountPassword rules deleteRules true).wp
      (service fault) (passing fun _ => True) (ending (fun _ _ => False) fun _ _ => True) w := by
  have anything : ∀ {α : Type} (program : Driver α) (t : World),
      program.wp (service fault) (passing fun _ => True)
        (ending (fun _ _ => True) fun _ _ => True) t := fun program t =>
    wp_of_exec (fun outcome _ _ => by cases outcome <;> trivial) fun _ _ _ _ => trivial
  unfold updateWekafsPolicies
  refine wp_bind_of _ (anything _ w) fun states t _ => ?_
  refine wp_bind_of _ (anything _ t) fun _ u _ => ?_
  obtain ⟨error, raises⟩ := pruneWekafsRules_malformed session share fsUid malformed
  simp only [↓reduceIte]
  rw [raises]
  trivial

private theorem staysGuarded_of_guarded (ready : WekafsReady cfg share fsUid w)
    (guarded : Guarded update (sharePolicies cfg share fsUid w)) :
    StaysGuarded cfg share fsUid update w := by
  intro states t run
  rw [update.program_wekafs ready.protocol] at run
  rcases guarded with ⟨full, malformed⟩ | ⟨level, ip, granted, untouched⟩
  · have stops : (updateWekafsAccess cfg share update.applied update.deleteRules
        update.fullSync).wp (service policyFaults)
        (passing fun u => WekafsReady cfg share fsUid u ∧ True)
        (ending (fun _ _ => False) fun _ _ => True) w := by
      apply wp_updateWekafsAccess ready (fun _ => True) trivial (fun _ _ _ _ _ => trivial)
      intro u ready' _
      rw [full]
      exact wp_weaken (wp_updateWekafsPolicies_ready ready'
        (wp_updateWekafsPolicies_malformed malformed)) (fun _ passed => passed)
        (fun _ _ reached => reached.2) fun _ _ _ => trivial
    exact (run.post stops).elim
  · have keeps : (updateWekafsAccess cfg share update.applied update.deleteRules
        update.fullSync).wp (service policyFaults)
        (passing fun u => WekafsReady cfg share fsUid u ∧ True)
        (ending (fun _ t => (sharePolicies cfg share fsUid t).Granted level ip)
          fun _ _ => True) w := by
      apply wp_updateWekafsAccess ready (fun _ => True) trivial (fun _ _ _ _ _ => trivial)
      intro u ready' same
      rw [← same] at granted
      exact wp_weaken (wp_updateWekafsPolicies_ready ready'
        (wp_updateWekafsPolicies_keeps untouched granted)) (fun _ passed => passed)
        (fun _ _ reached => reached.2.2) fun _ _ _ => trivial
    exact ⟨level, ip, run.post keeps⟩

end Sufficient

section Necessary

variable {cfg : Config} {share : Share} {fsUid : Uid} {w t u : World} {session : Session}
  {mountPassword : String} {level : Level} {ip : String}

/-- Only the share's policies differ, and whatever is granted was granted before
and is not lost. -/
structure Loses (session : Session) (share : Share) (fsUid : Uid) (lost : Level → String → Prop)
    (w t : World) : Prop where
  frame : PolicyFrame session share w t
  granted : ∀ level ip, (policyState session share fsUid t).Granted level ip →
    (policyState session share fsUid w).Granted level ip ∧ ¬ lost level ip

/-- What is lost twice is lost by either. -/
theorem Loses.trans {lost lost' : Level → String → Prop}
    (first : Loses session share fsUid lost w t) (second : Loses session share fsUid lost' t u) :
    Loses session share fsUid (fun level ip => lost level ip ∨ lost' level ip) w u := by
  refine ⟨first.frame.trans second.frame, fun level ip granted => ?_⟩
  obtain ⟨between, notLater⟩ := second.granted level ip granted
  obtain ⟨before, notEarlier⟩ := first.granted level ip between
  exact ⟨before, fun lost => lost.elim notEarlier notLater⟩

/-- What is not lost is less. -/
theorem Loses.mono {lost lost' : Level → String → Prop}
    (loses : Loses session share fsUid lost w t)
    (fewer : ∀ level ip, lost' level ip → lost level ip) :
    Loses session share fsUid lost' w t :=
  ⟨loses.frame, fun level ip granted =>
    ⟨(loses.granted level ip granted).1, fun lost =>
      (loses.granted level ip granted).2 (fewer level ip lost)⟩⟩

/-- Doing nothing loses nothing. -/
theorem Loses.refl (w : World) : Loses session share fsUid (fun _ _ => False) w w :=
  ⟨.refl w, fun _ _ granted => ⟨granted, id⟩⟩

/-- An error the driver takes for an object that exists already. -/
def takenError : Error := .api (.conflict "already exists")

/-- A request about policies may fail with the error the driver believes. -/
theorem exec_taken {request : Request} (about : request.aboutPolicies = true) :
    Exec (service policyFaults) (send session request) w (.error takenError) w :=
  Exec.perform (Or.inr ⟨takenError, ⟨about, rfl⟩, rfl, rfl⟩)

private theorem may_getSecurityPolicyByName (name : String) :
    May (service policyFaults) (getSecurityPolicyByName session name)
      (fun found t => found = w.cluster.policies.find? (session, name) ∧ t = w) w := by
  apply May.of_wp
  exact wp_getSecurityPolicyByName trivial ⟨rfl, rfl⟩ fun _ impossible => impossible.elim

/-- Making sure of an address may leave it out, or in a policy that is not
attached. -/
theorem may_ensurePolicyIp :
    May (service policyFaults) (ensurePolicyIp session share level ip
        (w.cluster.policies.find? (policyKey session share level)))
      (fun _ t => Loses session share fsUid (fun _ _ => False) w t) w := by
  unfold ensurePolicyIp
  cases found : w.cluster.policies.find? (policyKey session share level) with
  | none =>
      apply May.of_wp
      rw [wp_bind, onOk_ending]
      refine wp_createSecurityPolicy found (fun uid t replaced => ⟨trivial, ?_⟩)
        fun _ impossible => impossible.elim
      rw [ending_ok, wp_pure, ending_ok]
      refine ⟨.of_replaced replaced, fun level' ip' granted => ⟨?_, id⟩⟩
      rw [replaced.policyState] at granted
      by_cases same : level' = level
      · -- The new policy is not attached to any filesystem.
        subst same
        obtain ⟨list, held, attached, _⟩ := granted
        rw [PolicyState.put_self, Option.map_some, Option.some.injEq] at held
        subst held
        simp [AllowList.ofEntry] at attached
      · exact (PolicyState.granted_put_of_ne same).mp granted
  | some entry =>
      dsimp only
      split
      · have swallowed : May (service policyFaults)
            (tryCatch (send session (.updateSecurityPolicy entry.uid [ip] [])) fun error =>
              if isAlreadyExistsError error then pure () else throw error)
            (fun _ t => t = w) w := .tryCatch_error (exec_taken rfl) (.pure rfl)
        apply swallowed.bind
        intro _ t same
        rw [same]
        exact .pure (.refl w)
      · exact .pure (.refl w)

private theorem may_policySetIp_present :
    May (service policyFaults) (policySetIp session share (some fsUid) level ip true)
      (fun _ t => Loses session share fsUid (fun _ _ => False) w t) w := by
  unfold policySetIp
  apply (may_getSecurityPolicyByName _).bind
  intro found t opened
  obtain ⟨rfl, rfl⟩ := opened
  simp only [↓reduceIte]
  apply may_ensurePolicyIp.bind
  intro uid u loses
  exact .tryCatch_error (exec_taken rfl) (.pure loses)

private theorem may_policySetIp_absent :
    May (service policyFaults) (policySetIp session share (some fsUid) level ip false)
      (fun _ t => Loses session share fsUid (fun level' ip' => (level', ip') = (level, ip)) w t)
      w := by
  apply May.of_wp
  refine wp_weaken (wp_policySetIp_absent honest_noFaults) (fun _ _ => trivial) ?_
    fun _ _ raised => not_possible_noFaults raised.1
  intro _ t within
  obtain ⟨frame, revoked⟩ := within
  refine ⟨frame, fun level' ip' granted => ?_⟩
  rw [revoked] at granted
  obtain ⟨before, other⟩ := PolicyState.granted_of_revoke granted
  refine ⟨before, fun equal => ?_⟩
  rw [Prod.mk.injEq] at equal
  exact other equal.1 equal.2

/-- Applying a rule may clear its address at the other level and grant
nothing. -/
theorem may_addWekafsRule (states : RuleStates) (rule : AccessRule) :
    May (service policyFaults)
      (addWekafsRule session share (some fsUid) mountPassword states rule)
      (fun _ t => Loses session share fsUid
        (fun level ip => rule.policyRule? = some (level.other, ip)) w t) w := by
  cases found : rule.policyRule? with
  | none =>
      apply May.of_wp
      refine wp_weaken (wp_addWekafsRule honest_noFaults) (fun _ _ => trivial) ?_
        fun _ _ raised => raised
      intro states' t within
      obtain ⟨frame, added⟩ := within
      refine ⟨frame, fun level ip granted => ⟨?_, fun impossible => by cases impossible⟩⟩
      rwa [(adding_of_missing found).mp added.adding] at granted
  | some target =>
      obtain ⟨address, same⟩ := policyRule?_eq_some_iff.mp found
      obtain ⟨ipv4, readable⟩ := AccessRule.target?_eq_some_iff.mp address
      obtain ⟨ipType, notIpv6⟩ := AccessRule.isIpv4_iff.mp ipv4
      unfold addWekafsRule applyWekafsRule
      simp only [ipType, ne_eq, not_true_eq_false, notIpv6, ↓reduceIte, Bool.false_eq_true]
      rw [readable, liftExcept, pure_bind]
      apply May.tryCatch_ok
      apply May.bind (may_policySetIp_present.bind fun _ t loses => may_policySetIp_absent.mono
        fun _ u loses' => loses.trans loses')
      intro _ t loses
      refine .pure (loses.mono fun level ip equal => Or.inr ?_)
      rw [Option.some.injEq] at equal
      rw [same, equal, Level.other_other]

/-- A batch may remove everything it does not leave untouched, and grant
nothing. -/
theorem may_updateWekafsPolicies {update : AccessUpdate}
    (readable : update.fullSync = true → ∀ rule ∈ update.applied, ¬ rule.Malformed) :
    May (service policyFaults) (updateWekafsPolicies session share (some fsUid) mountPassword
        update.applied update.deleteRules update.fullSync)
      (fun _ t => Loses session share fsUid (fun level ip => ¬ Untouched update level ip) w t)
      w := by
  unfold updateWekafsPolicies
  apply May.bind (May.foldlM (fun visited _ t => Loses session share fsUid
    (fun level ip => (level.other, ip) ∈ policyRules visited) w t) update.applied ?_ ?_)
  · intro states t added
    -- Deleting and pruning succeed.
    have removed : May (service policyFaults) (update.deleteRules.forM fun rule =>
        (tryCatch (removeWekafsRule session share (some fsUid) rule) fun _ => pure () :
          Driver Unit))
        (fun _ u => Loses session share fsUid
          (fun _ ip => ip ∈ policyTargets update.deleteRules) t u) t := by
      apply May.of_wp
      refine wp_weaken wp_removeWekafsRules_reliable (fun _ passed => passed) ?_
        fun _ _ raised => raised
      intro _ u within
      obtain ⟨frame, equal⟩ := within
      refine ⟨frame, fun level ip granted => ?_⟩
      rw [equal] at granted
      exact PolicyState.granted_of_removeAll granted
    apply removed.bind
    intro _ u dropped
    cases full : update.fullSync with
    | false =>
        refine .pure ((added.trans dropped).mono fun level ip touched => ?_)
        by_contra neither
        rw [not_or] at neither
        have incremental : update.fullSync = true → False := fun impossible => by
          rw [full] at impossible
          cases impossible
        exact touched ⟨neither.1, neither.2, fun impossible => (incremental impossible).elim⟩
    | true =>
        simp only [↓reduceIte]
        have pruned : May (service policyFaults)
            (pruneWekafsRules session share (some fsUid) update.applied)
            (fun _ v => Loses session share fsUid
              (fun level ip => (level, ip) ∉ policyRules update.applied) u v) u := by
          apply May.of_wp
          refine wp_weaken (wp_pruneWekafsRules_reliable (readable full))
            (fun _ passed => passed) ?_ fun _ _ raised => raised
          intro _ v reached
          obtain ⟨listing, complete, frame, equal⟩ := reached
          refine ⟨frame, fun level ip granted => ?_⟩
          rw [equal] at granted
          obtain ⟨before, expected⟩ := PolicyState.granted_of_prune complete granted
          exact ⟨before, not_not.mpr expected⟩
        apply pruned.bind
        intro _ v pruned
        refine .pure (((added.trans dropped).trans pruned).mono fun level ip touched => ?_)
        by_contra neither
        rw [not_or, not_or, not_not] at neither
        exact touched ⟨neither.1.1, neither.1.2, fun _ => neither.2⟩
  · intro visited rule rest states t split loses
    apply (may_addWekafsRule states rule).mono
    intro states' u loses'
    refine (loses.trans loses').mono fun level ip moved => ?_
    unfold policyRules at moved ⊢
    rw [List.filterMap_append, List.mem_append] at moved
    refine moved.imp_right fun last => ?_
    obtain ⟨other, member, found⟩ := List.mem_filterMap.mp last
    rw [List.mem_singleton] at member
    rw [← member]
    exact found
  · exact (Loses.refl w).mono fun level ip impossible => by cases impossible

/-- Without faults, a ready share's update comes to its batch with the same
policies. -/
theorem may_updateWekafsAccess {addRules deleteRules : List AccessRule} {fullSync : Bool}
    {done : RuleStates → World → Prop} (ready : WekafsReady cfg share fsUid w)
    (body : ∀ t, sharePolicies cfg share fsUid t = sharePolicies cfg share fsUid w →
      May (service policyFaults) (updateWekafsPolicies (projectSession cfg share.projectId) share
        (some fsUid) (cfg.orgMountPassword share.projectId) addRules deleteRules fullSync) done t) :
    May (service policyFaults) (updateWekafsAccess cfg share addRules deleteRules fullSync) done
      w := by
  -- What every step before the batch keeps.
  let same : World → Prop := fun t => WekafsReady cfg share fsUid t ∧
    sharePolicies cfg share fsUid t = sharePolicies cfg share fsUid w
  have opens : May (service policyFaults) (orgClient cfg share.projectId)
      (fun session t => session = projectSession cfg share.projectId ∧ same t) w := by
    apply May.of_wp
    refine wp_weaken (wp_orgClient ready.project) (fun _ _ => trivial) ?_ ?_
    · intro session t opened
      obtain ⟨prepared, cached | fresh⟩ := opened
      · exact ⟨ready.sessions session cached, ready.prepared prepared, prepared.policies⟩
      · exact ⟨fresh, ready.prepared prepared, prepared.policies⟩
    · intro error t refused
      rcases refused.1 with possible | rejected
      · exact not_possible_noFaults possible
      · exact rejected ready.login
  unfold updateWekafsAccess
  apply opens.bind
  intro session t opened
  obtain ⟨rfl, ready', same'⟩ := opened
  have users : May (service policyFaults) (if addRules ≠ [] then
      ensureMountUser cfg (projectSession cfg share.projectId)
        (cfg.orgMountPassword share.projectId) else pure ()) (fun _ => same) t := by
    split
    · apply May.of_wp
      refine wp_weaken (wp_ensureMountUser (fun _ => True) trivial fun _ => trivial)
        (fun _ passed => passed) ?_ fun _ _ raised => not_possible_noFaults raised.1
      intro _ u created
      obtain ⟨users, rfl⟩ := created
      exact ⟨ready'.users users, same'⟩
    · exact .pure ⟨ready', same'⟩
  apply users.bind
  intro _ u reached
  obtain ⟨ready'', same''⟩ := reached
  have ungrouped : May (service policyFaults) (sharePolicyGroup share)
      (fun group v => group = none ∧ v = u) u := by
    apply May.of_wp
    exact wp_sharePolicyGroup (fun _ => trivial) ready''.ungrouped ⟨rfl, rfl⟩
  apply ungrouped.bind
  intro group v unchanged
  obtain ⟨rfl, rfl⟩ := unchanged
  dsimp only
  unfold findPolicyFilesystem
  dsimp only
  split
  · have found : May (service policyFaults)
        (getFilesystemByName (projectSession cfg share.projectId) (cfg.shareName share.id))
        (fun fs x => fs.map Entry.uid = some fsUid ∧ x = v) v := by
      apply May.of_wp
      obtain ⟨entry, found, same⟩ := ready''.filesystem
      refine wp_getFilesystemByName trivial ⟨?_, rfl⟩ fun _ impossible => impossible.elim
      rw [found, Option.map_some, same]
    apply found.bind
    intro fs x located
    obtain ⟨uid, rfl⟩ := located
    rw [uid]
    exact body _ same''
  · next idle =>
      simp only [Bool.or_eq_true, List.any_eq_true, decide_eq_true_eq, not_or, not_exists,
        not_and, Bool.not_eq_true] at idle
      obtain ⟨noIp, rfl⟩ := idle
      have unsearched : May (service policyFaults) (pure none : Driver (Option (Entry Filesystem)))
          (fun fs x => fs = none ∧ x = v) v := .pure ⟨rfl, rfl⟩
      apply unsearched.bind
      intro fs x located
      obtain ⟨rfl, rfl⟩ := located
      rw [Option.map_none, updateWekafsPolicies_without_ip noIp]
      exact body _ same''

private theorem guarded_of_staysGuarded {update : AccessUpdate}
    (ready : WekafsReady cfg share fsUid w)
    (stays : StaysGuarded cfg share fsUid update w) :
    Guarded update (sharePolicies cfg share fsUid w) := by
  by_cases stopped : update.fullSync = true ∧ ∃ rule ∈ update.applied, rule.Malformed
  · exact Or.inl stopped
  · have readable : update.fullSync = true → ∀ rule ∈ update.applied, ¬ rule.Malformed :=
      fun full rule member broken => stopped ⟨full, rule, member, broken⟩
    have may : May (service policyFaults)
        (updateWekafsAccess cfg share update.applied update.deleteRules update.fullSync)
        (fun _ t => ∀ level ip, (sharePolicies cfg share fsUid t).Granted level ip →
          (sharePolicies cfg share fsUid w).Granted level ip ∧ Untouched update level ip) w := by
      apply may_updateWekafsAccess ready
      intro t same
      apply (may_updateWekafsPolicies readable).mono
      intro _ u loses level ip granted
      obtain ⟨before, touched⟩ := loses.granted level ip granted
      rw [← same]
      exact ⟨before, not_not.mp touched⟩
    obtain ⟨states, t, run, left⟩ := may
    rw [← update.program_wekafs ready.protocol] at run
    obtain ⟨level, ip, granted⟩ := stays states t run
    exact Or.inr ⟨level, ip, left level ip granted⟩

end Necessary

/-- An update that returns is sure to leave an attached, non-empty policy if and
only if it is guarded. -/
theorem staysGuarded_iff {cfg : Config} {share : Share} {fsUid : Uid} {w : World}
    {update : AccessUpdate} (ready : WekafsReady cfg share fsUid w) :
    StaysGuarded cfg share fsUid update w ↔ Guarded update (sharePolicies cfg share fsUid w) :=
  ⟨guarded_of_staysGuarded ready, staysGuarded_of_guarded ready⟩

section Sample

/-- Adding a rule next to the sample rule is guarded, by the sample rule's address. -/
theorem staysGuarded_sample :
    StaysGuarded sampleConfig (sampleShare .wekafs) 0
      ⟨[sampleRule, otherRule], [otherRule], [], []⟩ grantedWekafs := by
  refine (staysGuarded_iff (grantedWekafs_reached.wekafsReady sampleWekafs_ready)).mpr
    (Or.inr ⟨.rw, "10.1.2.3", ⟨⟨{"10.1.2.3"}, false, true⟩, by decide, rfl, by decide⟩, ?_⟩)
  exact ⟨by decide, by decide, fun fullSync => absurd fullSync (by decide)⟩

/-- What is left when the sample rule is replaced and the addition fails. -/
def openWekafs : Except Error RuleStates × World :=
  ((⟨[otherRule], [otherRule], [sampleRule], []⟩ : AccessUpdate).program sampleConfig
    (sampleShare .wekafs)).runScript respond policyFaults
      [none, none, none, some (.api (.generic 503 "unavailable"))] grantedWekafs

/-- Replacing the only granted address falls open when the addition fails. -/
theorem replacing_rule_falls_open :
    WekafsReady sampleConfig (sampleShare .wekafs) 0 grantedWekafs ∧
    (sharePolicies sampleConfig (sampleShare .wekafs) 0 grantedWekafs).Granted .rw "10.1.2.3" ∧
    ipv4Rules [otherRule] ≠ [] ∧
    ¬ StaysGuarded sampleConfig (sampleShare .wekafs) 0 ⟨[otherRule], [otherRule], [sampleRule], []⟩
      grantedWekafs := by
  have ready := grantedWekafs_reached.wekafsReady sampleWekafs_ready
  refine ⟨ready, ⟨⟨{"10.1.2.3"}, false, true⟩, by decide, rfl, by decide⟩, by decide, ?_⟩
  intro stays
  have run : Exec (service policyFaults) _ grantedWekafs openWekafs.1 openWekafs.2 :=
    exec_runScript _ _ _
  have returned : openWekafs.1 = .ok [(otherRule.accessId, ⟨.error, none⟩)] := by decide
  rw [returned] at run
  obtain ⟨level, ip, list, held, _⟩ := stays _ _ run
  have missing : sharePolicies sampleConfig (sampleShare .wekafs) 0 openWekafs.2 level = none := by
    cases level <;> decide
  rw [missing] at held
  cases held

end Sample

end WekaShareDriver
