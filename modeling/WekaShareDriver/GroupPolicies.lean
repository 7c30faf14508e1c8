import WekaShareDriver.Access.PolicyCalls
import WekaShareDriver.FilesystemSpec
import WekaShareDriver.SessionSpec

/-! # The policies of a group

A share whose type selects a group gets the group's policies attached when it is
created: each level's policy is made with the configured addresses by the first
share of the project and reused as it is by the others
(`WekaShareDriver.wp_ensureGroupPolicy`). Nothing else changes
(`WekaShareDriver.GroupFrame`).
-/

namespace WekaShareDriver

open Foundation Program

/-- The type of a share selects a policy group. -/
def SelectsGroup (share : Share) (group : String) (w : World) : Prop :=
  ∃ typeId specs, share.shareTypeId.filter (· ≠ "") = some typeId ∧
    w.host.shareTypes.get? typeId = some specs ∧
    (Dict.get? specs policyGroupSpec).filter (· ≠ "") = some group

/-- The read of the extra specs of a share type. -/
def ReadsType (op : Op) : Prop := ∃ typeId, op = .host (.shareTypeExtraSpecs typeId)

/-- The addresses of a level. -/
def levelIps (levels : Dict Level (List String)) (level : Level) : List String :=
  (Dict.get? levels level).getD []

/-- Where the policy of a group at a level is found. -/
def groupKey (session : Session) (group : String) (level : Level) : Session × String :=
  (session, groupPolicyName group level)

/-- Two worlds differ at most in the policies of a group. -/
structure GroupFrame (session : Session) (group : String) (w t : World) : Prop where
  world : t = { w with cluster := { w.cluster with policies := t.cluster.policies } }
  others : ∀ key, (∀ level, key ≠ groupKey session group level) →
    t.cluster.policies.find? key = w.cluster.policies.find? key

/-- The policy of a group at a level after a share was attached to it: the one
there was, or one with the configured addresses. -/
structure Joined (fsUid : Uid) (level : Level) (ips : List String)
    (found : Option (Entry SecurityPolicy)) (entry : Entry SecurityPolicy) : Prop where
  ips : entry.val.ips = (found.map fun policy => policy.val.ips).getD ips
  readOnly : entry.val.readOnly = (found.map fun policy => policy.val.readOnly).getD (level == .ro)
  attached : fsUid ∈ entry.val.attached

/-- The policy of a group at a level, after a share joined it if the level has
addresses. -/
structure LevelJoined (session : Session) (fsUid : Uid) (group : String) (level : Level)
    (ips : List String) (w t : World) : Prop where
  world : t = { w with cluster := { w.cluster with policies := t.cluster.policies } }
  others : ∀ key, key ≠ groupKey session group level →
    t.cluster.policies.find? key = w.cluster.policies.find? key
  joined : ips ≠ [] → ∃ entry, t.cluster.policies.find? (groupKey session group level) = some entry ∧
    Joined fsUid level ips (w.cluster.policies.find? (groupKey session group level)) entry
  skipped : ips = [] → t.cluster.policies.find? (groupKey session group level) =
    w.cluster.policies.find? (groupKey session group level)

variable {cfg : Config} {share : Share} {fault : Fault} {session : Session} {group : String}
  {level level' : Level} {ips : List String} {fsUid : Uid} {w t u : World}

/-- The policies of a group are different at each level. -/
theorem groupKey_injective (same : groupKey session group level = groupKey session group level') :
    level = level' := by
  have suffixes : level.text = level'.text := Text.append_left_inj.mp (congrArg Prod.snd same)
  cases level <;> cases level' <;> first | rfl | exact absurd suffixes (by decide)

/-- A world does not differ from itself. -/
theorem GroupFrame.refl (w : World) : GroupFrame session group w w := ⟨rfl, fun _ _ => rfl⟩

/-- Replacing a policy of the group changes nothing else. -/
theorem GroupFrame.of_replaced {replacement : Option (Entry SecurityPolicy)}
    (replaced : Replaced w t (groupKey session group level) replacement) :
    GroupFrame session group w t := by
  refine ⟨replaced.world, fun key foreign => ?_⟩
  rw [replaced.lookup, Function.update_of_ne (foreign level)]

/-- The group the type of a share selects is read, unless the read fails. -/
theorem wp_sharePolicyGroup_selected {guarantee : World → Op → World → Prop}
    {post : Except Error (Option String) → World → Prop} (selects : SelectsGroup share group w)
    (guaranteed : ∀ op, ReadsType op → guarantee w op w) (read : post (.ok (some group)) w)
    (failed : ∀ op error, ReadsType op → fault w op error → post (.ok none) w) :
    (sharePolicyGroup share).wp (service fault) guarantee post w := by
  obtain ⟨typeId, specs, typed, known, selected⟩ := selects
  unfold sharePolicyGroup
  rw [typed]
  dsimp only
  have answered : w.host.answer (.shareTypeExtraSpecs typeId) = (.ok specs, w.host) := by
    simp only [Host.answer, known]
  rw [wp_tryCatch, wp_bind, wp_onHost, answered]
  refine ⟨⟨guaranteed _ ⟨typeId, rfl⟩, ?_⟩, fun error raised =>
    ⟨guaranteed _ ⟨typeId, rfl⟩, failed _ error ⟨typeId, rfl⟩ raised⟩⟩
  change post (.ok ((Dict.get? specs policyGroupSpec).filter (· ≠ ""))) w
  rw [selected]
  exact read

/-- A policy of the group that replaced the one of a level is joined there. -/
theorem LevelJoined.of_replaced {entry : Entry SecurityPolicy} (some' : ips ≠ [])
    (replaced : Replaced w t (groupKey session group level) (some entry))
    (joined : Joined fsUid level ips (w.cluster.policies.find? (groupKey session group level))
      entry) : LevelJoined session fsUid group level ips w t := by
  refine ⟨replaced.world, fun key foreign => ?_, fun _ => ⟨entry, replaced.found, joined⟩,
    fun none' => absurd none' some'⟩
  rw [replaced.lookup, Function.update_of_ne foreign]

/-- The policy of a level with addresses is made or found, and attached. -/
theorem wp_ensureGroupPolicy (honest : Honest fault) :
    (ensureGroupPolicy session fsUid group level ips).wp (service fault)
      (passing (GroupFrame session group w))
      (ending (fun _ t => LevelJoined session fsUid group level ips w t)
        (fun _ t => Possible fault ∧ GroupFrame session group w t)) w := by
  unfold ensureGroupPolicy
  rw [wp_ite]
  split
  · next some' =>
      -- Attaching the policy that was found or made.
      have attach : ∀ u entry, Replaced w u (groupKey session group level) (some entry) →
          (entry.val.ips = ((w.cluster.policies.find? (groupKey session group level)).map
            fun policy => policy.val.ips).getD ips) →
          (entry.val.readOnly = ((w.cluster.policies.find? (groupKey session group level)).map
            fun policy => policy.val.readOnly).getD (level == .ro)) →
          (attachPolicy session fsUid entry.uid).wp (service fault)
            (passing (GroupFrame session group w))
            (ending (fun _ t => LevelJoined session fsUid group level ips w t)
              (fun _ t => Possible fault ∧ GroupFrame session group w t)) u := by
        intro u entry replaced sameIps sameLevel
        apply wp_attachPolicy_found honest replaced.found (.of_replaced replaced)
        intro t entry' replaced' same
        have whole := replaced.trans replaced'
        refine ⟨.of_replaced whole, .of_replaced some' whole ?_⟩
        rcases same with ⟨there, rfl⟩ | rfl
        · exact ⟨sameIps, sameLevel, there⟩
        · exact ⟨sameIps, sameLevel, List.mem_append_right _ (List.mem_singleton_self _)⟩
      rw [wp_bind, onOk_ending]
      refine wp_getSecurityPolicyByName (.refl w) ?_ fun error raised =>
        ⟨⟨w, _, error, raised⟩, .refl w⟩
      rw [ending_ok]
      cases found : w.cluster.policies.find? (session, groupPolicyName group level) with
      | some policy =>
          have there : w.cluster.policies.find? (groupKey session group level) = some policy := found
          have same : Replaced w w (groupKey session group level) (some policy) := by
            rw [← there]
            exact .refl w _
          exact attach w policy same (by rw [there]; rfl) (by rw [there]; rfl)
      | none =>
          have missing : w.cluster.policies.find? (groupKey session group level) = none := found
          dsimp only
          rw [wp_bind, onOk_ending]
          refine wp_createSecurityPolicy found (fun uid u replaced => ?_) fun error raised =>
            ⟨.refl w, ⟨w, _, error, raised⟩, .refl w⟩
          refine ⟨.of_replaced replaced, ?_⟩
          exact attach u _ replaced (by rw [missing]; rfl) (by rw [missing]; rfl)
  · next none' =>
      exact ⟨rfl, fun _ _ => rfl, fun some' => absurd (not_not.mp none') some', fun _ => rfl⟩

end WekaShareDriver
