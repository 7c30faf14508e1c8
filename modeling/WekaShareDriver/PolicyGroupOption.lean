import WekaShareDriver.Foundation.Trimming
import WekaShareDriver.Share
import Mathlib.Data.Bool.AllAny
import Mathlib.Data.Option.Basic

/-! # Reading the policy-group option

The option is a list of entries, each of which grants some CIDRs to a group at a level. What
the parser returns is what its entries grant together, in their order
(`WekaShareDriver.cidrs_parsePolicyGroups`): so it reads two options put together as the two
merged, skips a malformed entry, and reads back whatever was rendered
(`WekaShareDriver.policy_groups_read`).
-/

namespace WekaShareDriver

open Foundation

/-- What one entry grants. -/
structure PolicyGrant where
  group : String
  level : Level
  cidrs : List String

/-- The CIDRs of an entry. -/
def cidrList (cidrs : String) : List String :=
  ((Text.splitOn cidrs ',').map Text.strip).filter (· ≠ "")

/-- The grant of an entry. -/
def grantOf (entry : String) : Option PolicyGrant :=
  match (Text.splitOn entry ':').map Text.strip with
  | [group, level, cidrs] =>
      match parseLevel level with
      | some level => if group = "" then none else some ⟨group, level, cidrList cidrs⟩
      | none => none
  | _ => none

/-- An entry has three fields, a group that is not blank and a level. -/
def WellFormedEntry (entry : String) : Prop :=
  ∃ group level cidrs, Text.splitOn entry ':' = [group, level, cidrs] ∧ Text.strip group ≠ "" ∧
    (Text.lower (Text.strip level) = "rw" ∨ Text.lower (Text.strip level) = "ro")

/-- The CIDRs of a group at a level, if the option names them. -/
def PolicyGroups.cidrs (groups : PolicyGroups) (group : String) (level : Level) :
    Option (List String) :=
  (groups.get? group).bind fun levels => levels.get? level

/-- What grants give a group at a level together. -/
def granted (grants : List PolicyGrant) (group : String) (level : Level) : Option (List String) :=
  match grants with
  | [] => none
  | grant :: rest =>
      if grant.group = group ∧ grant.level = level then
        some (grant.cidrs ++ (granted rest group level).getD [])
      else granted rest group level

/-- One option is another two merged: the CIDRs of each group and level one after the
other. -/
structure Merges (merged left right : PolicyGroups) : Prop where
  groups : ∀ group, (merged.get? group).isSome = ((left.get? group).isSome ||
    (right.get? group).isSome)
  cidrs : ∀ group level, merged.cidrs group level =
    Option.merge (· ++ ·) (left.cidrs group level) (right.cidrs group level)

/-- A name or CIDR that can be written in the option: trimmed, not blank and without a
separator. -/
structure Plain (text : String) : Prop where
  trimmed : Text.strip text = text
  nonempty : text ≠ ""
  separators : ∀ char ∈ [';', ':', ','], char ∉ text.toList

/-- A text with white space around it. -/
def Padded (core text : String) : Prop :=
  ∃ front back, Text.Blank front ∧ Text.Blank back ∧ text = front ++ core ++ back

/-- A list rendered item by item between separators. -/
inductive Rendered {α : Type} (item : List α → String → Prop) (separator : Char) :
    List α → String → Prop where
  | last {values : List α} {text : String} : item values text → Rendered item separator values text
  | more {values rest : List α} {text others : String} : item values text →
      Rendered item separator rest others →
        Rendered item separator (values ++ rest) (text ++ String.singleton separator ++ others)

/-- An item of a CIDR list: a CIDR or nothing, with white space around it. -/
inductive RendersCidr : List String → String → Prop where
  | blank {text : String} : Text.Blank text → RendersCidr [] text
  | cidr {cidr text : String} : Padded cidr text → RendersCidr [cidr] text

/-- An entry of the option: a grant, its level in any case, or nothing. -/
inductive RendersEntry : List PolicyGrant → String → Prop where
  | blank {text : String} : Text.Blank text → RendersEntry [] text
  | grant {grant : PolicyGrant} {group level cidrs : String} : Padded grant.group group →
      Text.lower (Text.strip level) = grant.level.text →
        Rendered RendersCidr ',' grant.cidrs cidrs →
          RendersEntry [grant] (group ++ ":" ++ level ++ ":" ++ cidrs)

variable {groups : PolicyGroups} {entry text group : String} {level : Level}

/-! ## What an entry grants -/

private theorem parseLevel_strip (text : String) :
    parseLevel (Text.strip text) = parseLevel text := by
  rw [parseLevel, parseLevel, Text.strip_strip]

private theorem cidrList_strip (text : String) : cidrList (Text.strip text) = cidrList text := by
  rw [cidrList, cidrList, Text.map_strip_splitOn (by decide)]

/-- An entry extends what was read by its grant. -/
theorem parsePolicyGroupEntry_eq (groups : PolicyGroups) (entry : String) :
    parsePolicyGroupEntry groups entry = match grantOf entry with
      | none => groups
      | some grant => groups.extend grant.group grant.level grant.cidrs := by
  rw [parsePolicyGroupEntry, grantOf, ← Text.map_strip_splitOn (by decide)]
  match Text.splitOn (Text.strip entry) ':' with
  | [] => rfl
  | [_] => rfl
  | [_, _] => rfl
  | [group, level, cidrs] =>
      simp only [List.map_cons, List.map_nil, parseLevel_strip]
      cases parseLevel level with
      | none => rfl
      | some level =>
          dsimp only
          split
          · rfl
          · simp only [cidrList_strip]
            rfl
  | _ :: _ :: _ :: _ :: _ => rfl

private theorem parseLevel_ne_none (parsed : parseLevel text ≠ none) :
    Text.lower (Text.strip text) = "rw" ∨ Text.lower (Text.strip text) = "ro" := by
  unfold parseLevel at parsed
  split at parsed
  · next rw' => exact Or.inl rw'
  · split at parsed
    · next ro => exact Or.inr ro
    · exact absurd rfl parsed

/-- An entry that grants something is well formed. -/
theorem wellFormed_of_grantOf {grant : PolicyGrant} (grants : grantOf entry = some grant) :
    WellFormedEntry entry := by
  unfold grantOf at grants
  split at grants
  · next group level cidrs fields =>
      obtain ⟨group', rest, split, named, fields⟩ := List.map_eq_cons_iff.mp fields
      obtain ⟨level', rest, rfl, levelled, fields⟩ := List.map_eq_cons_iff.mp fields
      obtain ⟨cidrs', rest, rfl, -, fields⟩ := List.map_eq_cons_iff.mp fields
      rw [List.map_eq_nil_iff.mp fields] at split
      rw [← levelled, parseLevel_strip] at grants
      cases parsed : parseLevel level' with
      | none =>
          rw [parsed] at grants
          cases grants
      | some level =>
          rw [parsed] at grants
          refine ⟨group', level', cidrs', split, fun blank => ?_, parseLevel_ne_none ?_⟩
          · simp [← named, blank] at grants
          · rw [parsed]
            exact Option.some_ne_none level
  · cases grants

/-! ## What the entries grant together -/

private theorem granted_append (left right : List PolicyGrant) (group : String) (level : Level) :
    granted (left ++ right) group level =
      Option.merge (· ++ ·) (granted left group level) (granted right group level) := by
  induction left with
  | nil =>
      rw [List.nil_append, granted]
      cases granted right group level <;> rfl
  | cons grant rest ih =>
      rw [List.cons_append, granted, granted, ih]
      split
      · cases granted rest group level <;> cases granted right group level <;>
          simp [Option.merge]
      · rfl

/-- Extending a group appends to the CIDRs of its level. -/
theorem cidrs_extend (groups : PolicyGroups) (group' : String) (level' : Level)
    (cidrs : List String) (group : String) (level : Level) :
    (groups.extend group' level' cidrs).cidrs group level =
      if group' = group ∧ level' = level then
        some ((groups.cidrs group level).getD [] ++ cidrs)
      else groups.cidrs group level := by
  unfold PolicyGroups.extend PolicyGroups.cidrs
  dsimp only
  rw [Dict.get?_assign]
  by_cases same : group = group'
  · subst same
    rw [if_pos rfl, Option.bind_some, Dict.get?_assign]
    by_cases same' : level = level'
    · subst same'
      cases groups.get? group <;> simp
    · cases groups.get? group <;> simp [same', Ne.symm same']
  · simp [same, Ne.symm same]

/-- The entries read so far and the ones to come grant together what is read. -/
theorem cidrs_foldl (entries : List String) (groups : PolicyGroups) (group : String)
    (level : Level) : (entries.foldl parsePolicyGroupEntry groups).cidrs group level =
      Option.merge (· ++ ·) (groups.cidrs group level)
        (granted (entries.filterMap grantOf) group level) := by
  induction entries generalizing groups with
  | nil =>
      rw [List.foldl_nil, List.filterMap_nil, granted]
      cases groups.cidrs group level <;> rfl
  | cons entry rest ih =>
      rw [List.foldl_cons, ih, parsePolicyGroupEntry_eq]
      cases found : grantOf entry with
      | none => rw [List.filterMap_cons_none found]
      | some grant =>
          rw [List.filterMap_cons_some found, granted]
          dsimp only
          rw [cidrs_extend]
          split
          · cases groups.cidrs group level <;>
              cases granted (rest.filterMap grantOf) group level <;> simp [Option.merge]
          · rfl

/-- What is read is what the entries grant together. -/
theorem cidrs_parsePolicyGroups (text group : String) (level : Level) :
    (parsePolicyGroups (some text)).cidrs group level =
      granted ((Text.splitOn text ';').filterMap grantOf) group level := by
  have nothing : PolicyGroups.cidrs [] group level = none := rfl
  rw [parsePolicyGroups, cidrs_foldl, nothing]
  cases granted ((Text.splitOn text ';').filterMap grantOf) group level <;> rfl

/-- A group that was read has a level. -/
theorem exists_level (entries : List String) (groups : PolicyGroups)
    (levels : ∀ group, groups.get? group ≠ none → ∃ level, groups.cidrs group level ≠ none)
    (group : String) (read : (entries.foldl parsePolicyGroupEntry groups).get? group ≠ none) :
    ∃ level, (entries.foldl parsePolicyGroupEntry groups).cidrs group level ≠ none := by
  induction entries generalizing groups with
  | nil => exact levels group read
  | cons entry rest ih =>
      rw [List.foldl_cons] at read ⊢
      refine ih _ (fun other present => ?_) read
      have step := parsePolicyGroupEntry_eq groups entry
      cases found : grantOf entry with
      | none =>
          rw [found] at step
          rw [step] at present ⊢
          exact levels other present
      | some grant =>
          rw [found] at step
          rw [step] at present ⊢
          by_cases same : grant.group = other
          · refine ⟨grant.level, ?_⟩
            rw [cidrs_extend, if_pos ⟨same, rfl⟩]
            exact Option.some_ne_none _
          · unfold PolicyGroups.extend at present
            rw [Dict.get?_assign_of_ne _ _ (Ne.symm same)] at present
            obtain ⟨level, named⟩ := levels other present
            refine ⟨level, ?_⟩
            rwa [cidrs_extend, if_neg fun both => same both.1]

private theorem isSome_parsePolicyGroups (text group : String) :
    ((parsePolicyGroups (some text)).get? group).isSome ↔
      ∃ level, (parsePolicyGroups (some text)).cidrs group level ≠ none := by
  constructor
  · intro read
    exact exists_level _ [] (fun _ present => absurd rfl present) group
      (Option.isSome_iff_ne_none.mp read)
  · rintro ⟨level, named⟩
    rw [Option.isSome_iff_ne_none]
    intro missing
    rw [PolicyGroups.cidrs, missing] at named
    exact named rfl

/-! ## What was rendered -/

private theorem not_mem_of_blank {char : Char} (kept : Text.isSpace char = false)
    (blank : Text.Blank text) : char ∉ text.toList := by
  intro member
  rw [blank char member] at kept
  cases kept

/-- A padded text is stripped as its core. -/
theorem Padded.strip {core : String} (padded : Padded core text) :
    Text.strip text = Text.strip core := by
  obtain ⟨front, back, left, right, rfl⟩ := padded
  exact Text.strip_pad left right

private theorem Padded.not_mem {core : String} {char : Char} (padded : Padded core text)
    (kept : Text.isSpace char = false) (absent : char ∉ core.toList) : char ∉ text.toList := by
  obtain ⟨front, back, left, right, rfl⟩ := padded
  simp only [String.toList_append, List.mem_append, not_or]
  exact ⟨⟨not_mem_of_blank kept left, absent⟩, not_mem_of_blank kept right⟩

private theorem padded_strip (text : String) :
    Padded (Text.strip text) text := Text.exists_strip text

/-- What stands for a level holds no separator. -/
theorem not_mem_level {char : Char} (separator : char ∈ [';', ':'])
    (named : Text.lower (Text.strip text) = level.text) : char ∉ text.toList := by
  have kept : ∀ char ∈ [';', ':'], Text.isSpace char = false :=
    List.all_iff_forall_prop.mp (by decide)
  refine (padded_strip text).not_mem (kept char separator) fun member => ?_
  have lowered : char.toLower ∈ level.text.toList := by
    rw [← named, Text.lower, String.toList_ofList]
    exact List.mem_map_of_mem member
  have other : ∀ char ∈ [';', ':'], ∀ level : Level, char.toLower ∉ level.text.toList := by
    have rw' : ∀ char ∈ [';', ':'], char.toLower ∉ Level.rw.text.toList :=
      List.all_iff_forall_prop.mp (by decide)
    have ro' : ∀ char ∈ [';', ':'], char.toLower ∉ Level.ro.text.toList :=
      List.all_iff_forall_prop.mp (by decide)
    intro char separator level
    cases level with
    | rw => exact rw' char separator
    | ro => exact ro' char separator
  exact other char separator level lowered

private theorem parseLevel_of_lower (named : Text.lower (Text.strip text) = level.text) :
    parseLevel text = some level := by
  rw [parseLevel, named]
  cases level <;> rfl

/-- An item renders no separator and is read back. -/
theorem RendersCidr.read {cidrs : List String} (renders : RendersCidr cidrs text)
    (plain : ∀ cidr ∈ cidrs, Plain cidr) : (∀ char ∈ [';', ':', ','], char ∉ text.toList) ∧
      cidrList text = cidrs := by
  have kept : ∀ char ∈ [';', ':', ','], Text.isSpace char = false :=
    List.all_iff_forall_prop.mp (by decide)
  cases renders with
  | blank blank =>
      have clean : ∀ char ∈ [';', ':', ','], char ∉ text.toList := fun char separator =>
        not_mem_of_blank (kept char separator) blank
      refine ⟨clean, ?_⟩
      rw [cidrList, Text.splitOn_of_not_mem (clean ',' (by simp)), List.map_singleton,
        Text.strip_of_blank blank]
      rfl
  | @cidr cidr _ padded =>
      have plain' := plain cidr (by simp)
      have clean : ∀ char ∈ [';', ':', ','], char ∉ text.toList := fun char separator =>
        padded.not_mem (kept char separator) (plain'.separators char separator)
      refine ⟨clean, ?_⟩
      rw [cidrList, Text.splitOn_of_not_mem (clean ',' (by simp)), List.map_singleton,
        padded.strip, plain'.trimmed]
      simp [plain'.nonempty]

/-- A rendered list of CIDRs is read back. -/
theorem read_cidrs {cidrs : List String} (renders : Rendered RendersCidr ',' cidrs text)
    (plain : ∀ cidr ∈ cidrs, Plain cidr) : (∀ char ∈ [';', ':'], char ∉ text.toList) ∧
      cidrList text = cidrs := by
  have within : ∀ char ∈ [';', ':'], char ∈ [';', ':', ','] := by simp
  induction renders with
  | last item =>
      obtain ⟨clean, same⟩ := item.read plain
      exact ⟨fun char separator => clean char (within char separator), same⟩
  | more item _ ih =>
      obtain ⟨clean, same⟩ := item.read fun cidr member =>
        plain cidr (List.mem_append_left _ member)
      obtain ⟨clean', same'⟩ := ih fun cidr member => plain cidr (List.mem_append_right _ member)
      constructor
      · intro char separator
        simp only [String.toList_append, List.mem_append, not_or, String.toList_singleton,
          List.mem_singleton]
        refine ⟨⟨clean char (within char separator), ?_⟩, clean' char separator⟩
        rintro rfl
        exact absurd separator (by decide)
      · rw [cidrList, Text.splitOn_append, List.map_append, List.filter_append]
        exact congrArg₂ (· ++ ·) same same'

/-- A grant that can be written. -/
structure PolicyGrant.Plain (grant : PolicyGrant) : Prop where
  group : WekaShareDriver.Plain grant.group
  cidrs : ∀ cidr ∈ grant.cidrs, WekaShareDriver.Plain cidr

/-- An entry renders no separator of entries and is read back. -/
theorem RendersEntry.read {grants : List PolicyGrant} (renders : RendersEntry grants text)
    (plain : ∀ grant ∈ grants, grant.Plain) :
    ';' ∉ text.toList ∧ [text].filterMap grantOf = grants := by
  cases renders with
  | blank blank =>
      refine ⟨not_mem_of_blank (by decide) blank, ?_⟩
      have colon : ':' ∉ text.toList := not_mem_of_blank (by decide) blank
      have nothing : grantOf text = none := by
        rw [grantOf, Text.splitOn_of_not_mem colon]
        rfl
      rw [List.filterMap_cons_none nothing, List.filterMap_nil]
  | @grant grant group level cidrs padded named renders =>
      have plain' := plain grant (by simp)
      obtain ⟨clean, same⟩ := read_cidrs renders plain'.cidrs
      have kept : ∀ char ∈ [';', ':'], Text.isSpace char = false :=
    List.all_iff_forall_prop.mp (by decide)
      have within : ∀ char ∈ [';', ':'], char ∈ [';', ':', ','] := by simp
      have group' : ∀ char ∈ [';', ':'], char ∉ group.toList := fun char separator =>
        padded.not_mem (kept char separator)
          (plain'.group.separators char (within char separator))
      have level' : ∀ char ∈ [';', ':'], char ∉ level.toList := fun char separator =>
        not_mem_level separator named
      constructor
      · simp only [String.toList_append, List.mem_append, not_or]
        exact ⟨⟨⟨⟨group' _ (by simp), by decide⟩, level' _ (by simp)⟩, by decide⟩,
          clean _ (by simp)⟩
      · have fields : Text.splitOn (group ++ ":" ++ level ++ ":" ++ cidrs) ':' =
            [group, level, cidrs] := by
          have colon : ":" = String.singleton ':' := rfl
          rw [colon, Text.splitOn_append, Text.splitOn_append,
            Text.splitOn_of_not_mem ( group' ':' (by simp)),
            Text.splitOn_of_not_mem ( level' ':' (by simp)),
            Text.splitOn_of_not_mem (clean ':' (by simp))]
          rfl
        have read : grantOf (group ++ ":" ++ level ++ ":" ++ cidrs) = some grant := by
          rw [grantOf, fields]
          simp only [List.map_cons, List.map_nil, parseLevel_strip, cidrList_strip,
            parseLevel_of_lower named, padded.strip, plain'.group.trimmed, plain'.group.nonempty,
            ↓reduceIte, same]
        rw [List.filterMap_cons_some read, List.filterMap_nil]

/-- The entries of a rendered option grant what was rendered. -/
theorem read_entries {grants : List PolicyGrant} (renders : Rendered RendersEntry ';' grants text)
    (plain : ∀ grant ∈ grants, grant.Plain) :
    (Text.splitOn text ';').filterMap grantOf = grants := by
  induction renders with
  | last item =>
      obtain ⟨clean, same⟩ := item.read plain
      rw [Text.splitOn_of_not_mem clean, same]
  | more item _ ih =>
      obtain ⟨clean, same⟩ := item.read fun grant member =>
        plain grant (List.mem_append_left _ member)
      rw [Text.splitOn_append, List.filterMap_append, Text.splitOn_of_not_mem clean, same,
        ih fun grant member => plain grant (List.mem_append_right _ member)]

private theorem granted_of_mem {grants : List PolicyGrant} {grant : PolicyGrant}
    (member : grant ∈ grants) :
    ∃ cidrs, granted grants grant.group grant.level = some cidrs ∧ grant.cidrs ⊆ cidrs := by
  induction grants with
  | nil => cases member
  | cons first rest ih =>
      rw [granted]
      rcases List.mem_cons.mp member with rfl | later
      · exact ⟨_, if_pos ⟨rfl, rfl⟩, List.subset_append_left _ _⟩
      · obtain ⟨cidrs, found, within⟩ := ih later
        rw [found]
        split
        · exact ⟨_, rfl, List.Subset.trans within (List.subset_append_right _ _)⟩
        · exact ⟨cidrs, rfl, within⟩

/-! ## The laws of the option -/

/-- The malformed entries of an option contribute nothing and disturb no other entry. -/
theorem parse_malformed (entry : String) (single : ';' ∉ entry.toList)
    (malformed : ¬ WellFormedEntry entry) (groups : PolicyGroups) :
    (Text.splitOn entry ';').foldl parsePolicyGroupEntry groups = groups := by
  rw [Text.splitOn_of_not_mem single, List.foldl_cons, List.foldl_nil, parsePolicyGroupEntry_eq,
    Option.eq_none_iff_forall_ne_some.mpr fun grant grants =>
      malformed (wellFormed_of_grantOf grants)]

/-- The option is read compositionally and without loss: two options put together are read
as the two merged, a malformed entry is skipped, and every rendering of a map from groups
and levels to CIDRs is read back as the map, the CIDRs in the order they were rendered. -/
theorem policy_groups_read :
    (∀ left right : String, Merges (parsePolicyGroups (some (left ++ ";" ++ right)))
      (parsePolicyGroups (some left)) (parsePolicyGroups (some right))) ∧
    (∀ left entry right : String, ';' ∉ entry.toList → ¬ WellFormedEntry entry →
      parsePolicyGroups (some (left ++ ";" ++ entry ++ ";" ++ right)) =
        parsePolicyGroups (some (left ++ ";" ++ right)) ∧
      parsePolicyGroups (some (left ++ ";" ++ entry)) = parsePolicyGroups (some left) ∧
      parsePolicyGroups (some (entry ++ ";" ++ right)) = parsePolicyGroups (some right) ∧
      parsePolicyGroups (some entry) = []) ∧
    ∀ (map : String → Level → Option (List String)),
      (∀ group level cidrs, map group level = some cidrs →
        Plain group ∧ ∀ cidr ∈ cidrs, Plain cidr) →
      ∀ grants text, Rendered RendersEntry ';' grants text →
        (∀ group level, Option.Rel List.Perm (granted grants group level) (map group level)) →
          (∀ group level,
            (parsePolicyGroups (some text)).cidrs group level = granted grants group level ∧
            Option.Rel List.Perm ((parsePolicyGroups (some text)).cidrs group level)
              (map group level)) ∧
          ∀ group, ((parsePolicyGroups (some text)).get? group).isSome ↔
            ∃ level, map group level ≠ none := by
  have semicolon : ";" = String.singleton ';' := rfl
  refine ⟨fun left right => ?_, fun left entry right single malformed => ?_, ?_⟩
  · have cidrs (group : String) (level : Level) :
        (parsePolicyGroups (some (left ++ ";" ++ right))).cidrs group level =
          Option.merge (· ++ ·) ((parsePolicyGroups (some left)).cidrs group level)
            ((parsePolicyGroups (some right)).cidrs group level) := by
      rw [cidrs_parsePolicyGroups, cidrs_parsePolicyGroups, cidrs_parsePolicyGroups, semicolon,
        Text.splitOn_append, List.filterMap_append, granted_append]
    refine ⟨fun group => ?_, cidrs⟩
    rw [Bool.eq_iff_iff, Bool.or_eq_true, isSome_parsePolicyGroups, isSome_parsePolicyGroups,
      isSome_parsePolicyGroups, ← exists_or]
    refine exists_congr fun level => ?_
    rw [cidrs]
    cases (parsePolicyGroups (some left)).cidrs group level <;>
      cases (parsePolicyGroups (some right)).cidrs group level <;> simp [Option.merge]
  · have skipped := parse_malformed entry single malformed
    simp only [parsePolicyGroups, semicolon, Text.splitOn_append, List.foldl_append, skipped,
      and_self]
  · intro map clean grants text renders same
    have plain : ∀ grant ∈ grants, grant.Plain := by
      intro grant member
      obtain ⟨cidrs, found, within⟩ := granted_of_mem member
      have related := same grant.group grant.level
      rw [found] at related
      cases mapped : map grant.group grant.level with
      | none =>
          rw [mapped] at related
          cases related
      | some cidrs' =>
          rw [mapped] at related
          cases related with
          | some perm =>
              obtain ⟨group, all⟩ := clean _ _ _ mapped
              exact ⟨group, fun cidr named => all cidr (perm.mem_iff.mp (within named))⟩
    have cidrs (group : String) (level : Level) :
        (parsePolicyGroups (some text)).cidrs group level = granted grants group level := by
      rw [cidrs_parsePolicyGroups, read_entries renders plain]
    refine ⟨fun group level => ⟨cidrs group level, ?_⟩, fun group => ?_⟩
    · rw [cidrs]
      exact same group level
    · rw [isSome_parsePolicyGroups]
      refine exists_congr fun level => ?_
      have related := same group level
      rw [cidrs]
      revert related
      cases granted grants group level <;> cases map group level <;> intro related <;>
        cases related <;> simp

/-- Two entries of one group, the second with spaces around its fields. -/
theorem policy_groups_read_sample :
    (parsePolicyGroups (some "gold:RW:10.1.0.0/16; gold : rw : 10.0.0.0/24 ,")).cidrs "gold" .rw =
      some ["10.1.0.0/16", "10.0.0.0/24"] := by
  have blank : Text.Blank "" := by simp [Text.Blank]
  have space : Text.Blank " " := by
    intro char member
    rw [List.mem_singleton.mp member]
    decide
  have upper : Text.lower (Text.strip "RW") = Level.rw.text := by decide
  have spaced : Text.lower (Text.strip " rw ") = Level.rw.text := by decide
  have bare (text : String) : Padded text text :=
    ⟨"", "", blank, blank, by rw [String.empty_append, String.append_empty]⟩
  have inside (text : String) : Padded text (" " ++ text ++ " ") := ⟨" ", " ", space, space, rfl⟩
  have first : RendersEntry [⟨"gold", .rw, ["10.1.0.0/16"]⟩]
      ("gold" ++ ":" ++ "RW" ++ ":" ++ "10.1.0.0/16") :=
    .grant (bare "gold") upper (.last (.cidr (bare "10.1.0.0/16")))
  have second : RendersEntry [⟨"gold", .rw, ["10.0.0.0/24"]⟩] ((" " ++ "gold" ++ " ") ++ ":" ++
      " rw " ++ ":" ++ ((" " ++ "10.0.0.0/24" ++ " ") ++ String.singleton ',' ++ "")) :=
    .grant (inside "gold") spaced (.more (RendersCidr.cidr (inside "10.0.0.0/24"))
      (.last (RendersCidr.blank blank)))
  have rendered : Rendered RendersEntry ';' _ _ := .more first (.last second)
  have plain : ∀ text ∈ ["gold", "10.0.0.0/24", "10.1.0.0/16"], Plain text := by
    have checked : ∀ text ∈ ["gold", "10.0.0.0/24", "10.1.0.0/16"], Text.strip text = text ∧
        text ≠ "" ∧ ([';', ':', ','].all fun char => char ∉ text.toList) = true := by decide
    intro text member
    obtain ⟨trimmed, nonempty, separators⟩ := checked text member
    exact ⟨trimmed, nonempty, List.all_iff_forall_prop.mp separators⟩
  have read := policy_groups_read.2.2
    (fun group level => if group = "gold" ∧ level = .rw then some ["10.0.0.0/24", "10.1.0.0/16"]
      else none)
    (fun group level cidrs named => by
      split at named
      · next same =>
          rw [← Option.some.inj named, same.1]
          exact ⟨plain _ (by simp), fun cidr member => plain cidr (List.mem_cons_of_mem _ member)⟩
      · cases named)
    [⟨"gold", .rw, ["10.1.0.0/16"]⟩, ⟨"gold", .rw, ["10.0.0.0/24"]⟩]
    _ rendered
    (fun group level => by
      by_cases same : "gold" = group ∧ Level.rw = level
      · obtain ⟨rfl, rfl⟩ := same
        exact .some (.swap _ _ _)
      · have other : ¬ (group = "gold" ∧ level = .rw) := fun both => same ⟨both.1.symm, both.2.symm⟩
        simp only [granted, same, other, ↓reduceIte]
        exact .none)
  exact (read.1 "gold" .rw).1

end WekaShareDriver
