import WekaShareDriver.Access.PolicyState
import WekaShareDriver.Access.Wekafs
import WekaShareDriver.Faults
import Mathlib.Data.Finset.Dedup

/-! # Calls on one security policy

Every request about a share's policy of one level replaces what the cluster
finds under that policy's name, and nothing else (`WekaShareDriver.Replaced`).
The rules below give each request's effect in those terms, for any faults.
-/

namespace WekaShareDriver

open Foundation Program

/-- One world differs from another at most in the policy found under a key. -/
structure Replaced (w t : World) (key : Session × String) (entry : Option (Entry SecurityPolicy)) :
    Prop where
  world : t = { w with cluster := { w.cluster with policies := t.cluster.policies } }
  lookup : t.cluster.policies.find? = Function.update w.cluster.policies.find? key entry

namespace Replaced

variable {w t u : World} {key : Session × String} {entry entry' : Option (Entry SecurityPolicy)}

/-- A world has the policy that it has. -/
theorem refl (w : World) (key : Session × String) :
    Replaced w w key (w.cluster.policies.find? key) :=
  ⟨rfl, (Function.update_eq_self key _).symm⟩

/-- Of two replacements of one policy the second counts. -/
theorem trans (first : Replaced w t key entry) (second : Replaced t u key entry') :
    Replaced w u key entry' := by
  refine ⟨?_, ?_⟩
  · rw [second.world, first.world]
  · rw [second.lookup, first.lookup, Function.update_idem]

/-- What replaced a policy is found under its key. -/
theorem found (replaced : Replaced w t key entry) : t.cluster.policies.find? key = entry := by
  rw [replaced.lookup, Function.update_self]

end Replaced

section Calls

variable {fault : Fault} {guarantee : World → Op → World → Prop} {w : World} {session : Session}
  {name : String} {entry : Entry SecurityPolicy}

/-- A policy found by name is the session's own. -/
theorem owned_of_found (found : w.cluster.policies.find? (session, name) = some entry) :
    Cluster.owned w.cluster.policies entry.uid (fun policy => policy.org = session) =
      some entry := by
  have org : entry.val.org = session := congrArg Prod.fst (Registry.find?_eq_some_iff.mp found).2
  rw [Cluster.owned, Registry.get?_of_find? found, Option.filter_some, org]
  simp

/-- A policy found by name is not gone. -/
theorem get?_ne_none_of_found (found : w.cluster.policies.find? (session, name) = some entry) :
    w.cluster.policies.get? entry.uid ≠ none := by
  rw [Registry.get?_of_find? found]
  exact Option.some_ne_none entry

/-- Looking a policy up finds the one of the name, or fails. -/
theorem wp_getSecurityPolicyByName
    {post : Except Error (Option (Entry SecurityPolicy)) → World → Prop}
    (guaranteed : guarantee w (.api session .listSecurityPolicies) w)
    (listed : post (.ok (w.cluster.policies.find? (session, name))) w)
    (failed : ∀ error, fault w (.api session .listSecurityPolicies) error →
      post (.error error) w) :
    (getSecurityPolicyByName session name).wp (service fault) guarantee post w := by
  have selects : ((w.cluster.policies.rows.filter fun entry => entry.val.org = session).find?
      fun policy => policy.val.name = name) = w.cluster.policies.find? (session, name) := by
    refine Registry.find?_filter _ _ _ _ fun entry => ?_
    rw [← Bool.decide_and]
    exact decide_eq_decide.mpr (Prod.mk.injEq ..).symm.to_iff
  unfold getSecurityPolicyByName
  rw [wp_bind, wp_send]
  refine ⟨⟨guaranteed, ?_⟩, fun error raised => ⟨guaranteed, failed error raised⟩⟩
  change post (.ok _) w
  rw [selects]
  exact listed

/-- Creating a policy that is missing leaves it as asked for and not attached, or fails. -/
theorem wp_createSecurityPolicy {ips : List String} {readOnly : Bool}
    {post : Except Error (Entry SecurityPolicy) → World → Prop}
    (missing : w.cluster.policies.find? (session, name) = none)
    (created : ∀ uid t, Replaced w t (session, name)
        (some ⟨uid, ⟨session, name, ips, readOnly, []⟩⟩) →
      guarantee w (.api session (.createSecurityPolicy name ips readOnly)) t ∧
        post (.ok ⟨uid, ⟨session, name, ips, readOnly, []⟩⟩) t)
    (failed : ∀ error, fault w (.api session (.createSecurityPolicy name ips readOnly)) error →
      guarantee w (.api session (.createSecurityPolicy name ips readOnly)) w ∧
        post (.error error) w) :
    (send session (.createSecurityPolicy name ips readOnly)).wp (service fault) guarantee post
      w := by
  rw [wp_send]
  have free : w.cluster.policies.find?
      (Keyed.key (⟨session, name, ips, readOnly, []⟩ : SecurityPolicy)) = none := missing
  refine ⟨?_, failed⟩
  simp only [Cluster.answer, Cluster.create, free]
  exact created _ _ ⟨rfl, Registry.find?_insert _ _ free⟩

/-- A request that changes a policy found by name. -/
theorem wp_changePolicy {request : Request} (change' : SecurityPolicy → SecurityPolicy)
    (keeps : ∀ policy, Keyed.key (change' policy) = Keyed.key policy)
    {post : Except Error request.Reply → World → Prop} {reply : request.Reply}
    (found : w.cluster.policies.find? (session, name) = some entry)
    (answered : w.cluster.answer session request = (.ok reply,
      { w.cluster with policies := w.cluster.policies.modify entry.uid change' keeps }))
    (changed : ∀ t, Replaced w t (session, name) (some ⟨entry.uid, change' entry.val⟩) →
      guarantee w (.api session request) t ∧ post (.ok reply) t)
    (failed : ∀ error, fault w (.api session request) error →
      guarantee w (.api session request) w ∧ post (.error error) w) :
    (send session request).wp (service fault) guarantee post w := by
  rw [wp_send, answered]
  exact ⟨changed _ ⟨rfl, Registry.find?_modify found change' keeps⟩, failed⟩

/-- Updating a policy changes its addresses, or fails. -/
theorem wp_updateSecurityPolicy {addIps removeIps : List String}
    {post : Except Error Unit → World → Prop}
    (found : w.cluster.policies.find? (session, name) = some entry)
    (updated : ∀ t, Replaced w t (session, name)
        (some ⟨entry.uid, entry.val.update addIps removeIps⟩) →
      guarantee w (.api session (.updateSecurityPolicy entry.uid addIps removeIps)) t ∧
        post (.ok ()) t)
    (failed : ∀ error, fault w (.api session (.updateSecurityPolicy entry.uid addIps removeIps))
        error → guarantee w (.api session (.updateSecurityPolicy entry.uid addIps removeIps)) w ∧
          post (.error error) w) :
    (send session (.updateSecurityPolicy entry.uid addIps removeIps)).wp (service fault) guarantee
      post w := by
  refine wp_changePolicy (·.update addIps removeIps) (fun _ => rfl) found ?_ updated failed
  simp only [Cluster.answer, owned_of_found found]

/-- Detaching a policy takes the filesystem off it, or fails. -/
theorem wp_detachFsSecurityPolicy {fsUid : Uid} {post : Except Error Unit → World → Prop}
    (found : w.cluster.policies.find? (session, name) = some entry)
    (detached : ∀ t, Replaced w t (session, name) (some ⟨entry.uid, entry.val.detach fsUid⟩) →
      guarantee w (.api session (.detachFsSecurityPolicy fsUid entry.uid)) t ∧ post (.ok ()) t)
    (failed : ∀ error, fault w (.api session (.detachFsSecurityPolicy fsUid entry.uid)) error →
      guarantee w (.api session (.detachFsSecurityPolicy fsUid entry.uid)) w ∧
        post (.error error) w) :
    (send session (.detachFsSecurityPolicy fsUid entry.uid)).wp (service fault) guarantee post
      w := by
  refine wp_changePolicy (·.detach fsUid) (fun _ => rfl) found ?_ detached failed
  simp only [Cluster.answer, owned_of_found found]

/-- Deleting a policy leaves none under its key, or fails. -/
theorem wp_deleteSecurityPolicy {post : Except Error Unit → World → Prop}
    (found : w.cluster.policies.find? (session, name) = some entry)
    (deleted : ∀ t, Replaced w t (session, name) none →
      guarantee w (.api session (.deleteSecurityPolicy entry.uid)) t ∧ post (.ok ()) t)
    (failed : ∀ error, fault w (.api session (.deleteSecurityPolicy entry.uid)) error →
      guarantee w (.api session (.deleteSecurityPolicy entry.uid)) w ∧ post (.error error) w) :
    (send session (.deleteSecurityPolicy entry.uid)).wp (service fault) guarantee post w := by
  rw [wp_send]
  refine ⟨?_, failed⟩
  simp only [Cluster.answer, owned_of_found found]
  exact deleted _ ⟨rfl, Registry.find?_erase found⟩

/-- Attaching a policy that is attached already is refused and changes
nothing. -/
theorem wp_attachFsSecurityPolicy {fsUid : Uid} {post : Except Error Unit → World → Prop}
    (found : w.cluster.policies.find? (session, name) = some entry)
    (attached : ∀ t, fsUid ∉ entry.val.attached →
      Replaced w t (session, name) (some ⟨entry.uid, entry.val.attach fsUid⟩) →
      guarantee w (.api session (.attachFsSecurityPolicy fsUid entry.uid)) t ∧ post (.ok ()) t)
    (present : fsUid ∈ entry.val.attached →
      guarantee w (.api session (.attachFsSecurityPolicy fsUid entry.uid)) w ∧
        post (.error (.api (.generic 500 "/fileSystems: security policy already present"))) w)
    (failed : ∀ error, fault w (.api session (.attachFsSecurityPolicy fsUid entry.uid)) error →
      guarantee w (.api session (.attachFsSecurityPolicy fsUid entry.uid)) w ∧
        post (.error error) w) :
    (send session (.attachFsSecurityPolicy fsUid entry.uid)).wp (service fault) guarantee post
      w := by
  by_cases there : fsUid ∈ entry.val.attached
  · rw [wp_send]
    refine ⟨?_, failed⟩
    simp only [Cluster.answer, owned_of_found found, there, ↓reduceIte]
    exact present there
  · refine wp_changePolicy (·.attach fsUid) (fun _ => rfl) found ?_ (attached · there) failed
    simp only [Cluster.answer, owned_of_found found, there, ↓reduceIte]

/-- Attaching a policy ends with it attached, whether it was before or not. -/
theorem wp_attachPolicy_found (honest : Honest fault) {fsUid : Uid} {passed : World → Prop}
    {done : Unit → World → Prop}
    (found : w.cluster.policies.find? (session, name) = some entry) (here : passed w)
    (attached : ∀ t entry', Replaced w t (session, name) (some entry') →
      (fsUid ∈ entry.val.attached ∧ entry' = entry ∨
        entry' = ⟨entry.uid, entry.val.attach fsUid⟩) → passed t ∧ done () t) :
    (attachPolicy session fsUid entry.uid).wp (service fault) (passing passed)
      (ending done fun _ t => Possible fault ∧ passed t) w := by
  have already : fsUid ∈ entry.val.attached → done () w := fun there => by
    refine (attached w entry ?_ (Or.inl ⟨there, rfl⟩)).2
    rw [← found]
    exact .refl w _
  unfold attachPolicy
  rw [wp_tryCatch, onError_ending]
  refine wp_attachFsSecurityPolicy found ?_ ?_ ?_
  · intro t _ replaced
    exact attached t _ replaced (Or.inr rfl)
  · intro there
    exact ⟨here, already there⟩
  · intro error raised
    refine ⟨here, ?_⟩
    rw [ending_error, wp_ite]
    split
    · next tolerated =>
        obtain ⟨entry', present, there⟩ := honest.alreadyThere w _ _ error raised tolerated
        rw [Registry.get?_of_find? found, Option.some.injEq] at present
        subst present
        exact already there
    · exact ⟨⟨w, _, error, raised⟩, here⟩

end Calls

end WekaShareDriver
