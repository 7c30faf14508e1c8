import WekaShareDriver.Access.WekafsSync

/-! # Kinds of access rules

An ip rule that is not IPv6 either denotes an IPv4 network, or is a bare text
that denotes none (`WekaShareDriver.AccessRule.Unreadable`), or cannot be read at
all (`WekaShareDriver.AccessRule.Malformed`). The text a policy holds for an IPv4
rule determines the rule's network.
-/

namespace WekaShareDriver

open Foundation

/-- The text of a network denotes it. -/
theorem network?_networkText (net : Ipv4.Network) :
    network? (String.ofList (Ipv4.networkText net)) = some net := by
  rw [network?, String.toList_ofList]
  exact Ipv4.parseNetwork_networkText net

namespace AccessRule

/-- The network of an IPv4 ip rule. -/
def network? (rule : AccessRule) : Option Ipv4.Network :=
  if rule.accessType = .ip then WekaShareDriver.network? rule.accessTo else none

/-- An ip rule whose bare target is no address. -/
def Unreadable (rule : AccessRule) : Prop :=
  rule.isIpv4 = true ∧ '/' ∉ rule.accessTo.toList ∧
    WekaShareDriver.network? rule.accessTo = none

instance (rule : AccessRule) : Decidable rule.Unreadable := by
  unfold Unreadable
  infer_instance

variable {rule : AccessRule} {net : Ipv4.Network} {ip : String}

/-- A rule denotes the network of its text if it is an ip rule. -/
theorem network?_eq_some_iff : rule.network? = some net ↔
    rule.accessType = .ip ∧ WekaShareDriver.network? rule.accessTo = some net := by
  unfold network?
  split
  · next ipType => simp [ipType]
  · next other => simp [other]

/-- A rule that denotes a network is for IPv4. -/
theorem isIpv4_of_network? (denotes : rule.network? = some net) : rule.isIpv4 = true := by
  obtain ⟨ipType, parsed⟩ := network?_eq_some_iff.mp denotes
  exact isIpv4_iff.mpr ⟨ipType, Ipv4.isNetworkV6_of_parseNetwork parsed⟩

/-- The text a policy holds for a readable target denotes the same network. -/
theorem network?_policyIp {text ip : String} (read : policyIp text = .ok ip) :
    WekaShareDriver.network? ip = WekaShareDriver.network? text := by
  unfold policyIp at read
  split at read
  · cases read
    rfl
  · split at read
    · next net parsed =>
        cases read
        rw [parsed]
        exact network?_networkText net
    · cases read

/-- An IPv4 rule has an address, and the address denotes the rule's network. -/
theorem target?_of_network? (denotes : rule.network? = some net) :
    ∃ ip, rule.target? = some ip ∧ WekaShareDriver.network? ip = some net := by
  have ipv4 := isIpv4_of_network? denotes
  have parsed := (network?_eq_some_iff.mp denotes).2
  have readable : ∃ ip, policyIp rule.accessTo = .ok ip := by
    unfold policyIp
    split
    · exact ⟨_, rfl⟩
    · rw [parsed]
      exact ⟨_, rfl⟩
  obtain ⟨ip, read⟩ := readable
  refine ⟨ip, target?_eq_some_iff.mpr ⟨ipv4, read⟩, ?_⟩
  rw [network?_policyIp read, parsed]

/-- A rule with an address denotes the address's network, or it is
unreadable. -/
theorem network?_of_target? (found : rule.target? = some ip) :
    rule.network? = WekaShareDriver.network? ip ∧
      (WekaShareDriver.network? ip = none → rule.Unreadable) := by
  obtain ⟨ipv4, read⟩ := target?_eq_some_iff.mp found
  have same := network?_policyIp read
  have ipType := (isIpv4_iff.mp ipv4).1
  refine ⟨by rw [network?, if_pos ipType, same], fun none => ⟨ipv4, ?_, by rw [← same, none]⟩⟩
  intro slash
  unfold policyIp at read
  rw [if_neg (not_not.mpr slash), ← same, none] at read
  cases read

/-- The address of a rule that cannot be read is its text. -/
theorem Unreadable.target? (unreadable : rule.Unreadable) : rule.target? = some rule.accessTo := by
  obtain ⟨ipv4, bare, _⟩ := unreadable
  refine target?_eq_some_iff.mpr ⟨ipv4, ?_⟩
  rw [policyIp, if_pos bare]

/-- A rule with a network is neither unreadable nor malformed. -/
theorem not_unreadable_of_network? (denotes : rule.network? = some net) : ¬ rule.Unreadable := by
  intro unreadable
  have none := unreadable.2.2
  rw [(network?_eq_some_iff.mp denotes).2] at none
  exact Option.some_ne_none net none

end AccessRule

/-- The rules that denote an IPv4 network. -/
def ipv4Rules (rules : List AccessRule) : List AccessRule :=
  rules.filter fun rule => rule.network?.isSome

/-- No two of the rules' IPv4 networks are equal. -/
def DistinctNetworks (rules : List AccessRule) : Prop :=
  (rules.filterMap AccessRule.network?).Nodup

instance (rules : List AccessRule) : Decidable (DistinctNetworks rules) :=
  inferInstanceAs (Decidable (List.Nodup _))

/-- The addresses, in the form policies hold them, of the IPv4 rules at a
level. -/
def ipv4Addresses (rules : List AccessRule) : Level → Finset String :=
  PolicyState.ruleSet (policyRules (ipv4Rules rules))

variable {rules : List AccessRule}

/-- The IPv4 rules are the rules that denote a network. -/
theorem mem_ipv4Rules {rule : AccessRule} :
    rule ∈ ipv4Rules rules ↔ rule ∈ rules ∧ ∃ net, rule.network? = some net := by
  unfold ipv4Rules
  rw [List.mem_filter, Option.isSome_iff_exists]

/-- There are IPv4 rules if some rule denotes a network. -/
theorem ipv4Rules_ne_nil : ipv4Rules rules ≠ [] ↔ ∃ rule ∈ rules, ∃ net, rule.network? = some net := by
  constructor
  · intro nonempty
    obtain ⟨rule, member⟩ := List.exists_mem_of_ne_nil _ nonempty
    exact ⟨rule, mem_ipv4Rules.mp member⟩
  · intro ⟨rule, member⟩
    exact List.ne_nil_of_mem (mem_ipv4Rules.mpr member)

/-- Without unreadable rules, only the IPv4 rules have addresses. -/
theorem policyRules_ipv4Rules (readable : ∀ rule ∈ rules, ¬ rule.Unreadable) :
    policyRules (ipv4Rules rules) = policyRules rules := by
  induction rules with
  | nil => rfl
  | cons rule rest ih =>
      have later := ih fun rule member => readable rule (List.mem_cons_of_mem _ member)
      unfold ipv4Rules policyRules at later ⊢
      cases denotes : rule.network? with
      | some net =>
          rw [List.filter_cons_of_pos (by rw [denotes]; rfl), List.filterMap_cons,
            List.filterMap_cons, later]
      | none =>
          have missing : rule.policyRule? = none := by
            cases found : rule.policyRule? with
            | none => rfl
            | some target =>
                have address := (policyRule?_eq_some_iff.mp found).1
                obtain ⟨same, unreadable⟩ := AccessRule.network?_of_target? address
                exact absurd (unreadable (same.symm.trans denotes))
                  (readable rule List.mem_cons_self)
          rw [List.filter_cons_of_neg (by rw [denotes]; simp), later,
            List.filterMap_cons_none missing]

/-- Rules of two parts of a list denote different networks. -/
theorem DistinctNetworks.ne {first second : List AccessRule} {rule rule' : AccessRule}
    {net : Ipv4.Network} (distinct : DistinctNetworks (first ++ second)) (member : rule ∈ first)
    (member' : rule' ∈ second) (denotes : rule.network? = some net) :
    rule'.network? ≠ some net := by
  intro denotes'
  unfold DistinctNetworks at distinct
  rw [List.filterMap_append, List.nodup_append] at distinct
  exact distinct.2.2 net (List.mem_filterMap.mpr ⟨rule, member, denotes⟩) net
    (List.mem_filterMap.mpr ⟨rule', member', denotes'⟩) rfl

/-- The first of rules with different networks have different networks. -/
theorem DistinctNetworks.left {first second : List AccessRule}
    (distinct : DistinctNetworks (first ++ second)) : DistinctNetworks first := by
  unfold DistinctNetworks at distinct ⊢
  rw [List.filterMap_append, List.nodup_append] at distinct
  exact distinct.1

/-- No two unreadable rules have the same text. -/
def DistinctTexts (rules : List AccessRule) : Prop :=
  rules.Pairwise fun rule rule' =>
    rule.Unreadable → rule'.Unreadable → rule.accessTo ≠ rule'.accessTo

instance (rules : List AccessRule) : Decidable (DistinctTexts rules) := by
  unfold DistinctTexts
  infer_instance

/-- Where every rule can be read, no unreadable text stands twice. -/
theorem distinctTexts_of_readable (readable : ∀ rule ∈ rules, ¬ rule.Unreadable) :
    DistinctTexts rules :=
  List.pairwise_of_forall_mem_list fun rule member _ _ unreadable =>
    absurd unreadable (readable rule member)

/-- Rules with distinct networks and texts have distinct addresses. -/
theorem nodup_policyTargets (distinct : DistinctNetworks rules) (texts : DistinctTexts rules) :
    (policyTargets rules).Nodup := by
  unfold DistinctNetworks at distinct
  unfold DistinctTexts at texts
  unfold policyTargets
  rw [List.Nodup, List.pairwise_filterMap] at distinct ⊢
  refine List.Pairwise.imp ?_ (distinct.and texts)
  intro rule rule' differ ip found ip' found' same
  subst same
  obtain ⟨denotes, unreadable⟩ := AccessRule.network?_of_target? found
  obtain ⟨denotes', unreadable'⟩ := AccessRule.network?_of_target? found'
  cases parsed : network? ip with
  | none =>
      have text := (unreadable parsed).target?
      have text' := (unreadable' parsed).target?
      rw [found, Option.some.injEq] at text
      rw [found', Option.some.injEq] at text'
      exact differ.2 (unreadable parsed) (unreadable' parsed) (text.symm.trans text')
  | some net =>
      rw [parsed] at denotes denotes'
      exact differ.1 net denotes net denotes' rfl

end WekaShareDriver
