import WekaShareDriver.Access.PolicyCalls
import WekaShareDriver.Filesystems
import WekaShareDriver.Foundation.Obeys
import WekaShareDriver.Footprint

/-! # Policies that are left alone

Requests act on a policy by its uid, and the driver takes the uid from a policy it
found or made under a name. A program that does so keeps away from the policies of
other names (`WekaShareDriver.obeys_withPolicy`), and what it keeps away from does
not change (`WekaShareDriver.Avoids.kept`).
-/

namespace WekaShareDriver

open Foundation Program

/-- The policy a request acts on. -/
def Request.policyUid? : Request → Option Uid
  | .updateSecurityPolicy uid .. => some uid
  | .deleteSecurityPolicy uid => some uid
  | .attachFsSecurityPolicy _ uid => some uid
  | .detachFsSecurityPolicy _ uid => some uid
  | _ => none

/-- The requests that make a policy, attach it to a filesystem or add addresses to
it. -/
def Request.grants : Request → Bool
  | .createSecurityPolicy .. => true
  | .attachFsSecurityPolicy .. => true
  | .updateSecurityPolicy _ addIps _ => addIps ≠ []
  | _ => false

/-- A policy with no more filesystems and addresses than another. -/
def SecurityPolicy.Within (policy other : SecurityPolicy) : Prop :=
  policy.attached ⊆ other.attached ∧ policy.ips ⊆ other.ips

/-- A policy has no more than it has. -/
theorem SecurityPolicy.Within.refl (policy : SecurityPolicy) : policy.Within policy :=
  ⟨List.Subset.refl _, List.Subset.refl _⟩

/-- A uid stands for no policy of a guarded name. -/
def Unguarded (guarded : String → Prop) (uid : Uid) (w : World) : Prop :=
  ∀ entry, w.cluster.policies.get? uid = some entry → ¬ guarded entry.val.name

/-- A request of some kinds neither makes a policy of a guarded name nor acts on
one. -/
def Avoids (guarded : String → Prop) (kinds : Request → Prop) (w : World) (op : Op) : Prop :=
  ∀ session request, op = .api session request → kinds request →
    (∀ name ips readOnly, request = .createSecurityPolicy name ips readOnly → ¬ guarded name) ∧
      ∀ uid, request.policyUid? = some uid → Unguarded guarded uid w

/-- A request that acts on the policy of a uid. -/
def OnPolicy (uid : Uid) (op : Op) : Prop :=
  ∃ session request, op = .api session request ∧ request.policyUid? = some uid

/-- An operation that neither makes a policy nor acts on one. -/
def NoPolicy (op : Op) : Prop :=
  ∀ session request, op = .api session request →
    (∀ name ips readOnly, request ≠ .createSecurityPolicy name ips readOnly) ∧
      request.policyUid? = none

variable {guarded : String → Prop} {kinds : Request → Prop} {fault : Fault} {uid : Uid}
  {session : Session} {w t : World} {α : Type}

/-- An operation that makes no policy and acts on none avoids all. -/
theorem NoPolicy.avoids {op : Op} (free : NoPolicy op) : Avoids guarded kinds w op := by
  intro session request same _
  obtain ⟨makes, acts⟩ := free session request same
  refine ⟨fun name ips readOnly created => absurd created (makes name ips readOnly), fun uid on => ?_⟩
  rw [acts] at on
  cases on

/-- A request that creates no policy and names none makes none and acts on none. -/
theorem noPolicy_api {request : Request}
    (makes : ∀ name ips readOnly, request ≠ .createSecurityPolicy name ips readOnly)
    (acts : request.policyUid? = none) : NoPolicy (.api session request) := by
  intro session' request' same
  obtain ⟨-, same'⟩ := Op.api.inj same
  subst same'
  exact ⟨makes, acts⟩

/-! ## Acting on a policy -/

/-- A policy keeps its name. -/
theorem answer_policies {cluster : Cluster} {request : Request} :
    cluster.policies.Follows (cluster.answer session request).2.policies := by
  cases request with
  | createSecurityPolicy name ips readOnly => exact create_follows cluster.policies _ _
  | updateSecurityPolicy uid addIps removeIps =>
      simp only [Cluster.answer]
      split
      · exact .modify cluster.policies _ (·.update addIps removeIps) fun _ => rfl
      · exact .refl cluster.policies
  | deleteSecurityPolicy uid =>
      simp only [Cluster.answer]
      split
      · exact .erase cluster.policies _
      · exact .refl cluster.policies
  | attachFsSecurityPolicy fsUid uid =>
      simp only [Cluster.answer]
      split
      · split
        · exact .refl cluster.policies
        · exact .modify cluster.policies _ (·.attach fsUid) fun _ => rfl
      · exact .refl cluster.policies
  | detachFsSecurityPolicy fsUid uid =>
      simp only [Cluster.answer]
      split
      · exact .modify cluster.policies _ (·.detach fsUid) fun _ => rfl
      · exact .refl cluster.policies
  | deleteFilesystem uid =>
      simp only [Cluster.answer]
      split
      · exact .modifyAll cluster.policies (·.detach _) fun _ => rfl
      · exact .refl cluster.policies
  | _ =>
      simp only [Cluster.answer]
      repeat' split
      all_goals exact .refl cluster.policies

/-- Only one request adds a policy. -/
theorem answer_policies_next {cluster : Cluster} {request : Request}
    (other : ∀ name ips readOnly, request ≠ .createSecurityPolicy name ips readOnly) :
    (cluster.answer session request).2.policies.next = cluster.policies.next := by
  cases request with
  | createSecurityPolicy name ips readOnly => exact absurd rfl (other name ips readOnly)
  | _ =>
      simp only [Cluster.answer]
      repeat' split
      all_goals rfl

/-- A uid that stands for no guarded policy does not come to stand for one. -/
theorem Unguarded.kept {op : Op} {answer : Except Error op.Res} (unguarded : Unguarded guarded uid w)
    (on : OnPolicy uid op) (answered : service fault w op answer t) : Unguarded guarded uid t := by
  rcases answered_world answered with rfl | rfl
  · obtain ⟨session, request, rfl, acts⟩ := on
    have same : (w.cluster.answer session request).2.policies.next = w.cluster.policies.next :=
      answer_policies_next fun name ips readOnly created => by rw [created] at acts; cases acts
    intro entry found
    obtain ⟨member, here⟩ := Registry.get?_eq_some_iff.mp found
    obtain ⟨origin, earlier, sameUid, sameKey⟩ := answer_policies.origin same member
    have before : w.cluster.policies.get? uid = some origin :=
      Registry.get?_eq_some_iff.mpr ⟨earlier, sameUid.trans here⟩
    have name : origin.val.name = entry.val.name := congrArg Prod.snd sameKey
    exact name ▸ unguarded origin before
  · exact unguarded

/-- A program that acts on one policy, which is not guarded. -/
theorem obeys_onPolicy {program : Driver α} (uses : program.Uses (OnPolicy uid)) :
    Obeys (service fault) (Unguarded guarded uid) (fun u op _ => Avoids guarded kinds u op)
      program := by
  refine .of_uses uses fun u op answer v on unguarded answered =>
    ⟨?_, unguarded.kept on answered⟩
  rintro session request rfl -
  obtain ⟨session', request', same, acts⟩ := on
  obtain ⟨-, same'⟩ := Op.api.inj same
  subst same'
  refine ⟨fun name ips readOnly created => ?_, fun uid' acts' => ?_⟩
  · rw [created] at acts
    cases acts
  · rw [← Option.some.inj (acts.symm.trans acts')]
    exact unguarded

/-- What is found under a name that is not guarded is not guarded. -/
theorem unguarded_of_found {name : String} {entry : Entry SecurityPolicy}
    (found : w.cluster.policies.find? (session, name) = some entry) (other : ¬ guarded name) :
    Unguarded guarded entry.uid w := by
  intro entry' found'
  rw [Registry.get?_of_find? found, Option.some.injEq] at found'
  subst found'
  have named : entry.val.name = name := congrArg Prod.snd (Registry.find?_eq_some_iff.mp found).2
  rwa [named]

/-- A lookup that finds no guarded policy. -/
def FindsUnguarded (guarded : String → Prop) (kinds : Request → Prop) (fault : Fault)
    (find : Driver (Option (Entry SecurityPolicy))) : Prop :=
  ∀ s, find.wp (service fault) (fun u op _ => Avoids guarded kinds u op ∧ True)
    (ending (fun found t => ∀ policy, found = some policy → Unguarded guarded policy.uid t)
      fun _ _ => True) s

private theorem findsUnguarded_byName {name : String} (other : ¬ guarded name) :
    FindsUnguarded guarded kinds fault (getSecurityPolicyByName session name) := by
  intro s
  have lists : Avoids guarded kinds s (.api session .listSecurityPolicies) :=
    (noPolicy_api (fun _ _ _ created => by cases created) rfl).avoids
  refine wp_getSecurityPolicyByName ⟨lists, trivial⟩ (fun policy found => ?_) fun _ _ => trivial
  exact unguarded_of_found found other

/-- A lookup whose failure counts as finding nothing. -/
theorem FindsUnguarded.orNone {find : Driver (Option (Entry SecurityPolicy))}
    (finds : FindsUnguarded guarded kinds fault find) :
    FindsUnguarded guarded kinds fault (tryCatch find fun _ => pure none) :=
  fun s => wp_tryCatch_of _ (finds s) fun _ _ _ _ none' => by cases none'

/-- Finding the policy of a name that is not guarded, and acting on it. -/
theorem obeys_withPolicy {find : Driver (Option (Entry SecurityPolicy))}
    {rest : Option (Entry SecurityPolicy) → Driver α}
    (finds : FindsUnguarded guarded kinds fault find)
    (missing : Obeys (service fault) (fun _ => True) (fun u op _ => Avoids guarded kinds u op)
      (rest none))
    (acts : ∀ policy, (rest (some policy)).Uses (OnPolicy policy.uid)) :
    Obeys (service fault) (fun _ => True) (fun u op _ => Avoids guarded kinds u op)
      (find >>= rest) := by
  intro s _
  apply wp_bind_of _ (finds s)
  intro found u known
  cases found with
  | none => exact missing u trivial
  | some policy => exact (obeys_onPolicy (acts policy)).wp_guarantee (known policy rfl)

/-- Making the policy of a name that is not guarded, and acting on it. -/
theorem obeys_newPolicy {name : String} {ips : List String} {readOnly : Bool}
    {rest : Entry SecurityPolicy → Driver α} (other : ¬ guarded name)
    (acts : ∀ policy, (rest policy).Uses (OnPolicy policy.uid)) :
    Obeys (service fault) (fun _ => True) (fun u op _ => Avoids guarded kinds u op)
      (send session (.createSecurityPolicy name ips readOnly) >>= rest) := by
  intro s _
  have makes : Avoids guarded kinds s (.api session (.createSecurityPolicy name ips readOnly)) := by
    rintro session' request same -
    obtain ⟨-, same'⟩ := Op.api.inj same
    subst same'
    refine ⟨fun name' ips' readOnly' created => ?_, fun uid on => by cases on⟩
    rw [← (Request.createSecurityPolicy.inj created).1]
    exact other
  apply wp_bind_of fun policy t => Unguarded guarded policy.uid t
  · rw [wp_send]
    refine ⟨⟨⟨makes, trivial⟩, ?_⟩, fun _ _ => ⟨⟨makes, trivial⟩, trivial⟩⟩
    simp only [Cluster.answer, Cluster.create]
    cases free : s.cluster.policies.find?
        (Keyed.key (⟨session, name, ips, readOnly, []⟩ : SecurityPolicy)) with
    | some entry => trivial
    | none =>
        intro entry found
        have made := Registry.get?_of_mem ((Registry.mem_insert free).mpr (Or.inr rfl))
        rw [Option.some.inj (found.symm.trans made)]
        exact other
  · intro policy u unguarded
    exact (obeys_onPolicy (acts policy)).wp_guarantee unguarded

/-! ## Programs that keep away from guarded policies -/

private theorem uses_onPolicy {request : Request} (on : request.policyUid? = some uid) :
    (send session request).Uses (OnPolicy uid) :=
  uses_perform ⟨session, request, rfl, on⟩

private theorem onPolicy_attachPolicy (fsUid : Uid) : (attachPolicy session fsUid uid).Uses
    (OnPolicy uid) :=
  .tryCatch (uses_onPolicy rfl) fun _ => .ite (fun _ => trivial) fun _ => trivial

private theorem onPolicy_retirePolicy (fsUid : Option Uid) :
    (retirePolicy session fsUid uid).Uses (OnPolicy uid) := by
  have delete : (tryCatch (send session (.deleteSecurityPolicy uid)) fun error =>
      if isNotFound error then pure () else throw error : Driver Unit).Uses (OnPolicy uid) :=
    .tryCatch (uses_onPolicy rfl) fun _ => .ite (fun _ => trivial) fun _ => trivial
  cases fsUid with
  | none => exact delete
  | some fsUid =>
      exact .bind (.tryCatch (uses_onPolicy rfl) fun _ =>
        .ite (fun _ => trivial) fun _ => trivial) fun _ => delete

/-- Setting an address of a per-share policy acts on that policy only. -/
theorem obeys_policySetIp {share : Share} {level : Level}
    (other : ¬ guarded (wekafsPolicyName share.id level)) (fsUid : Option Uid) (ip : String)
    (present : Bool) : Obeys (service fault) (fun _ => True)
      (fun u op _ => Avoids guarded kinds u op)
      (policySetIp session share fsUid level ip present) := by
  have attach (policyUid : Uid) {finish : Driver Unit} (unattached : fsUid = none → finish = pure ())
      (attached : ∀ uid, fsUid = some uid → finish = attachPolicy session uid policyUid) :
      finish.Uses (OnPolicy policyUid) := by
    cases fsUid with
    | none => rw [unattached rfl]; trivial
    | some uid => rw [attached uid rfl]; exact onPolicy_attachPolicy uid
  cases present with
  | true =>
      refine obeys_withPolicy (findsUnguarded_byName other) ?_ fun policy => ?_
      · change Obeys _ _ _ (ensurePolicyIp session share level ip none >>= _)
        rw [ensurePolicyIp, LawfulMonad.bind_assoc]
        refine obeys_newPolicy other fun policy => ?_
        exact attach policy.uid (by rintro rfl; rfl) (by rintro _ rfl; rfl)
      · change (ensurePolicyIp session share level ip (some policy) >>= _).Uses _
        by_cases listed : ip ∈ policy.val.ips
        · simp only [ensurePolicyIp, listed, not_true_eq_false, ↓reduceIte]
          exact attach policy.uid (by rintro rfl; rfl) (by rintro _ rfl; rfl)
        · simp only [ensurePolicyIp, listed, not_false_eq_true, ↓reduceIte]
          rw [LawfulMonad.bind_assoc]
          exact .bind (.tryCatch (uses_onPolicy rfl) fun _ =>
            .ite (fun _ => trivial) fun _ => trivial) fun _ =>
              attach policy.uid (by rintro rfl; rfl) (by rintro _ rfl; rfl)
  | false =>
      refine obeys_withPolicy (findsUnguarded_byName other) (.pure _) fun policy => ?_
      refine .bind (.ite (fun _ => ?_) fun _ => trivial) fun current =>
        .ite (fun _ => onPolicy_retirePolicy fsUid) fun _ => trivial
      exact .bind (.tryCatch (uses_onPolicy rfl) fun _ =>
        .ite (fun _ => trivial) fun _ => trivial) fun _ => trivial

/-- The policy of a group is found or made, and attached. -/
theorem obeys_ensureGroupPolicy {group : String} {level : Level}
    (other : ¬ guarded (groupPolicyName group level)) (fsUid : Uid) (ips : List String) :
    Obeys (service fault) (fun _ => True) (fun u op _ => Avoids guarded kinds u op)
      (ensureGroupPolicy session fsUid group level ips) := by
  refine .ite (fun _ => ?_) fun _ => .pure _
  refine obeys_withPolicy (findsUnguarded_byName other) ?_ fun policy => onPolicy_attachPolicy fsUid
  have made : Obeys (service fault) (fun _ => True) (fun u op _ => Avoids guarded kinds u op)
      (send session (.createSecurityPolicy (groupPolicyName group level) ips (level == .ro)) >>=
        fun policy => attachPolicy session fsUid policy.uid) :=
    obeys_newPolicy other fun _ => onPolicy_attachPolicy fsUid
  exact made

/-- The cleanup of a share acts on its own policies only. -/
theorem obeys_cleanupWekafsPolicies {share : Share}
    (other : ∀ level, ¬ guarded (wekafsPolicyName share.id level)) (fsUid : Uid) :
    Obeys (service fault) (fun _ => True) (fun u op _ => Avoids guarded kinds u op)
      (cleanupWekafsPolicies session share fsUid) := by
  refine .forM fun level _ => ?_
  refine obeys_withPolicy (findsUnguarded_byName (other level)).orNone (.pure _) fun policy => ?_
  exact .bind (.tryCatch (uses_onPolicy rfl) fun _ => trivial) fun _ =>
    .tryCatch (uses_onPolicy rfl) fun _ => trivial

/-! ## What a request does to the policies -/

/-- How a request may change the policies found under their keys. -/
inductive PolicyChange (session : Session) (cluster cluster' : Cluster) : Request → Prop where
  | none (request : Request) (same : cluster'.policies = cluster.policies) :
      PolicyChange session cluster cluster' request
  | made (name : String) (ips : List String) (readOnly : Bool) (entry : Entry SecurityPolicy)
      (lookup : cluster'.policies.find? =
        Function.update cluster.policies.find? (session, name) (some entry)) :
      PolicyChange session cluster cluster' (.createSecurityPolicy name ips readOnly)
  | acted {request : Request} {uid : Uid} {entry : Entry SecurityPolicy}
      {left : Option (Entry SecurityPolicy)} (on : request.policyUid? = some uid)
      (found : cluster.policies.get? uid = some entry)
      (lookup : cluster'.policies.find? =
        Function.update cluster.policies.find? (Keyed.key entry.val) left)
      (shrinks : request.grants = false →
        ∀ entry', left = some entry' → entry'.val.Within entry.val) :
      PolicyChange session cluster cluster' request
  | unlinked (uid : Uid)
      (lookup : ∀ key, cluster'.policies.find? key =
        (cluster.policies.find? key).map fun entry => ⟨entry.uid, entry.val.detach uid⟩) :
      PolicyChange session cluster cluster' (.deleteFilesystem uid)

/-- A policy that is acted on is one the session sees. -/
theorem get?_of_owned {ρ κ : Type} [Keyed ρ κ] {registry : Registry ρ} {uid : Uid}
    {visible : ρ → Bool} {entry : Entry ρ}
    (owned : Cluster.owned registry uid visible = some entry) : registry.get? uid = some entry :=
  (Option.filter_eq_some_iff.mp owned).1

private theorem policyChange_of_modify {cluster : Cluster} {request : Request}
    {entry : Entry SecurityPolicy}
    (on : request.policyUid? = some uid) (found : cluster.policies.get? uid = some entry)
    (change' : SecurityPolicy → SecurityPolicy)
    (keeps : ∀ policy, Keyed.key (change' policy) = Keyed.key policy)
    (shrinks : request.grants = false → (change' entry.val).Within entry.val) :
    PolicyChange session cluster
      { cluster with policies := cluster.policies.modify entry.uid change' keeps } request := by
  have listed := Registry.find?_of_mem (Registry.get?_eq_some_iff.mp found).1
  refine .acted on found (Registry.find?_modify listed change' keeps) fun quiet entry' left => ?_
  rw [← Option.some.inj left]
  exact shrinks quiet

/-- Every request changes the policies in one of these ways. -/
theorem policyChange (session : Session) (cluster : Cluster) (request : Request) :
    PolicyChange session cluster (cluster.answer session request).2 request := by
  cases request with
  | createSecurityPolicy name ips readOnly =>
      simp only [Cluster.answer, Cluster.create]
      split
      · exact .none _ rfl
      · next free => exact .made name ips readOnly _ (Registry.find?_insert _ _ free)
  | updateSecurityPolicy uid addIps removeIps =>
      simp only [Cluster.answer]
      split
      · next entry owned =>
          refine policyChange_of_modify rfl (get?_of_owned owned) (·.update addIps removeIps)
            (fun _ => rfl) fun quiet => ⟨List.Subset.refl _, ?_⟩
          have none' : addIps = [] := by simpa [Request.grants] using quiet
          subst none'
          intro ip member
          simpa using (List.mem_filter.mp member).1
      · exact .none _ rfl
  | attachFsSecurityPolicy fsUid uid =>
      simp only [Cluster.answer]
      split
      · next entry owned =>
          split
          · exact .none _ rfl
          · exact policyChange_of_modify rfl (get?_of_owned owned) (·.attach fsUid) (fun _ => rfl)
              fun quiet => by cases quiet
      · exact .none _ rfl
  | detachFsSecurityPolicy fsUid uid =>
      simp only [Cluster.answer]
      split
      · next entry owned =>
          exact policyChange_of_modify rfl (get?_of_owned owned) (·.detach fsUid) (fun _ => rfl)
            fun _ => ⟨List.filter_sublist.subset, List.Subset.refl _⟩
      · exact .none _ rfl
  | deleteSecurityPolicy uid =>
      simp only [Cluster.answer]
      split
      · next entry owned =>
          have found := get?_of_owned owned
          have listed := Registry.find?_of_mem (Registry.get?_eq_some_iff.mp found).1
          exact .acted rfl found (Registry.find?_erase listed) fun _ _ none' => by cases none'
      · exact .none _ rfl
  | deleteFilesystem uid =>
      simp only [Cluster.answer]
      split
      · next fs owned =>
          have same : fs.uid = uid := (Registry.get?_eq_some_iff.mp (get?_of_owned owned)).2
          rw [same]
          exact .unlinked uid fun key =>
            Registry.find?_modifyAll cluster.policies (·.detach uid) (fun _ => rfl) key
      · exact .none _ rfl
  | _ =>
      simp only [Cluster.answer]
      repeat' split
      all_goals exact .none _ rfl

/-- What a policy lets into a filesystem. -/
def policyView (fsUid : Uid) (entry : Entry SecurityPolicy) : Uid × List String × Bool × Bool :=
  (entry.uid, entry.val.ips, entry.val.readOnly, decide (fsUid ∈ entry.val.attached))

/-- Guarded policies have no more filesystems and addresses than before. -/
def Withheld (guarded : String → Prop) (w t : World) : Prop :=
  ∀ session name entry', guarded name → t.cluster.policies.find? (session, name) = some entry' →
    ∃ entry, w.cluster.policies.find? (session, name) = some entry ∧ entry'.val.Within entry.val

/-- Guarded policies have no more than they have. -/
theorem Withheld.refl (w : World) : Withheld guarded w w :=
  fun _ _ entry' _ found => ⟨entry', found, .refl _⟩

/-- Guarded policies that gain nothing twice gain nothing. -/
theorem Withheld.trans {u : World} (first : Withheld guarded w t) (second : Withheld guarded t u) :
    Withheld guarded w u := by
  intro session name entry'' guards found
  obtain ⟨entry', found', within⟩ := second session name entry'' guards found
  obtain ⟨entry, found'', within'⟩ := first session name entry' guards found'
  exact ⟨entry, found'', List.Subset.trans within.1 within'.1, List.Subset.trans within.2 within'.2⟩

section PolicyChange

variable {cluster cluster' : Cluster} {request : Request}

/-- A request that acts on no guarded policy keeps them. -/
theorem PolicyChange.kept {fsUid : Uid} {name : String}
    (change' : PolicyChange session cluster cluster' request)
    (makes : ∀ name ips readOnly, request = .createSecurityPolicy name ips readOnly → ¬ guarded name)
    (acts : ∀ uid, request.policyUid? = some uid →
      ∀ entry, cluster.policies.get? uid = some entry → ¬ guarded entry.val.name)
    (spared : ∀ uid, request = .deleteFilesystem uid → uid ≠ fsUid)
    (guards : guarded name) (session' : Session) :
    (cluster'.policies.find? (session', name)).map (policyView fsUid) =
      (cluster.policies.find? (session', name)).map (policyView fsUid) := by
  cases change' with
  | none _ same => rw [same]
  | made name' ips readOnly entry lookup =>
      have other : (session', name) ≠ (session, name') := by
        rintro ⟨⟩
        exact makes name ips readOnly rfl guards
      rw [lookup, Function.update_of_ne other]
  | @acted _ uid entry left on found lookup shrinks =>
      have other : (session', name) ≠ Keyed.key entry.val := by
        intro same
        have named : name = entry.val.name := congrArg Prod.snd same
        exact acts uid on entry found (named ▸ guards)
      rw [lookup, Function.update_of_ne other]
  | unlinked uid lookup =>
      have different : fsUid ≠ uid := (spared uid rfl).symm
      rw [lookup, Option.map_map]
      congr 1
      funext entry
      simp [policyView, SecurityPolicy.detach, different]

/-- A request that grants nothing through a guarded policy leaves them with no more than
they had. -/
theorem PolicyChange.withheld {host : Host}
    (change' : PolicyChange session cluster cluster' request)
    (makes : ∀ name ips readOnly, request = .createSecurityPolicy name ips readOnly → ¬ guarded name)
    (acts : ∀ uid, request.policyUid? = some uid → request.grants = true →
      ∀ entry, cluster.policies.get? uid = some entry → ¬ guarded entry.val.name) :
    Withheld guarded ⟨cluster, host⟩ ⟨cluster', host⟩ := by
  intro session' name entry' guards found'
  cases change' with
  | none _ same => exact ⟨entry', by rwa [same] at found', .refl _⟩
  | made name' ips readOnly entry lookup =>
      have other : (session', name) ≠ (session, name') := by
        rintro ⟨⟩
        exact makes name ips readOnly rfl guards
      rw [lookup, Function.update_of_ne other] at found'
      exact ⟨entry', found', .refl _⟩
  | @acted _ uid entry left on found lookup shrinks =>
      rw [lookup] at found'
      by_cases here : (session', name) = Keyed.key entry.val
      · rw [here, Function.update_self] at found'
        have listed := Registry.find?_of_mem (Registry.get?_eq_some_iff.mp found).1
        have named : name = entry.val.name := congrArg Prod.snd here
        refine ⟨entry, here ▸ listed, shrinks ?_ entry' found'⟩
        by_contra grants
        rw [Bool.not_eq_false] at grants
        exact acts uid on grants entry found (named ▸ guards)
      · rw [Function.update_of_ne here] at found'
        exact ⟨entry', found', .refl _⟩
  | unlinked uid lookup =>
      rw [lookup, Option.map_eq_some_iff] at found'
      obtain ⟨entry, found, rfl⟩ := found'
      exact ⟨entry, found, List.filter_sublist.subset, List.Subset.refl _⟩

end PolicyChange

/-- A guarded policy does not change for a filesystem that is not deleted. -/
theorem Avoids.kept {op : Op} {answer : Except Error op.Res} {fsUid : Uid} {name : String}
    (avoids : Avoids guarded (fun _ => True) w op) (answered : service fault w op answer t)
    (spared : ∀ session uid, op = .api session (.deleteFilesystem uid) → uid ≠ fsUid)
    (guards : guarded name) (session : Session) :
    (t.cluster.policies.find? (session, name)).map (policyView fsUid) =
      (w.cluster.policies.find? (session, name)).map (policyView fsUid) := by
  rcases answered_world answered with rfl | rfl
  · cases op with
    | login org username password => rfl
    | host given => rfl
    | api session' request =>
        have allowed := avoids session' request rfl trivial
        exact (policyChange session' w.cluster request).kept allowed.1 allowed.2
          (fun uid same => spared session' uid (by rw [same])) guards session
  · rfl

/-- Guarded policies are not made, and get no further filesystem or address. -/
theorem Avoids.withheld {op : Op} {answer : Except Error op.Res}
    (avoids : Avoids guarded (fun request => request.grants = true) w op)
    (answered : service fault w op answer t) : Withheld guarded w t := by
  rcases answered_world answered with rfl | rfl
  · cases op with
    | login org username password => exact .refl w
    | host given => exact .refl w
    | api session request =>
        have change' := policyChange session w.cluster request
        by_cases grants : request.grants = true
        · have allowed := avoids session request rfl grants
          exact change'.withheld allowed.1 fun uid on _ => allowed.2 uid on
        · refine change'.withheld (fun name ips readOnly same => ?_) fun uid on grants' =>
            absurd grants' grants
          exact absurd (by rw [same]; rfl) grants
  · exact .refl t

end WekaShareDriver
