import WekaShareDriver.Access.NfsSpec

/-! # Removing exports

The driver finds what to remove through the filesystem's permissions: it deletes
the selected ones, collects the names of their groups, and then deletes those
groups with their rules. Whatever fails, only the access through groups that had
a selected permission is touched; when nothing fails, all of it is gone
(`WekaShareDriver.wp_removeNfsRule`, `WekaShareDriver.wp_pruneNfsRules`).
-/

namespace WekaShareDriver

open Foundation Program

namespace NfsState

variable {state state' : NfsState} {matching : String → Prop} {name : String}

/-- Clearing brings no group back. -/
theorem Clearing.networks_none (step : state.Clearing matching state')
    (gone : (state name).networks = none) : (state' name).networks = none := by
  rcases (step.retracting name).networks with none' | ⟨_, _, _, present⟩
  · exact none'
  · rw [gone] at present
    cases present

/-- Clearing gives no permission back. -/
theorem Clearing.permission_none (step : state.Clearing matching state')
    (gone : (state name).permission = none) : (state' name).permission = none := by
  rcases (step.retracting name).permission with none' | same
  · exact none'
  · rw [same, gone]

end NfsState

section Groups

variable {fault : Fault} {w : World} {fsName name : String} {group : Entry ClientGroup}

/-- Replacing a group by one with fewer networks clears it. -/
theorem GroupReplaced.clearing {t : World} {group' : Option (Entry ClientGroup)}
    (replaced : GroupReplaced w t name group')
    (found : w.cluster.clientGroups.find? name = some group)
    (fewer : ∀ entry, group' = some entry → entry.val.networks ⊆ group.val.networks) :
    (WekaShareDriver.nfsState fsName w).Clearing (· = name) (WekaShareDriver.nfsState fsName t) := by
  intro other
  rw [replaced.nfsState]
  by_cases same : other = name
  · subst same
    right
    rw [Function.update_self]
    refine ⟨rfl, ?_, Or.inr rfl⟩
    have held : (WekaShareDriver.nfsState fsName w other).networks = some group.val.networks := by
      simp only [WekaShareDriver.nfsState, found, Option.map_some]
    cases group' with
    | none => exact Or.inl rfl
    | some entry =>
        right
        refine ⟨entry.val.networks, ?_, rfl, by rw [held]; rfl⟩
        unfold GroupAccess.held
        rw [held]
        exact fewer entry rfl
  · left
    rw [Function.update_of_ne same]

/-- The rules of a group are removed, up to faults. -/
theorem wp_deleteClientGroupRules {passed : World → Prop}
    (found : w.cluster.clientGroups.find? name = some group) (here : passed w)
    (removed : ∀ t group', GroupReplaced w t name (some group') →
      group'.val.networks ⊆ group.val.networks → passed t) :
    (deleteClientGroupRules group.uid).wp (service fault) (passing passed)
      (ending
        (fun _ t => passed t ∧ ∃ group', GroupReplaced w t name (some group') ∧
          group'.uid = group.uid ∧ group'.val.networks ⊆ group.val.networks ∧
          (¬ Possible fault → group'.val.rules = []))
        (fun _ _ => False)) w := by
  have unchanged : GroupReplaced w w name (some group) := by
    rw [← found]
    exact .refl w name
  unfold deleteClientGroupRules
  rw [wp_tryCatch, onError_ending, wp_bind, onOk_ending]
  refine wp_getClientGroup found here ?_ fun error raised => ?_
  · rw [ending_ok]
    -- Without faults, the rules left are those not visited yet.
    let left (visited : List GroupRule) (t : World) : Prop := passed t ∧ ∃ group',
      GroupReplaced w t name (some group') ∧ group'.uid = group.uid ∧
      group'.val.networks ⊆ group.val.networks ∧
      (¬ Possible fault → ∀ rule ∈ group'.val.rules, rule ∈ group.val.rules ∧ rule ∉ visited)
    apply wp_forM left group.val.rules
    · intro visited rule rest t _ reached
      obtain ⟨there, group', replaced, same, fewer, left⟩ := reached
      rw [onOk_ending, ← same, wp_tryCatch, onError_ending]
      refine wp_deleteClientGroupRule replaced.found (fun u replaced' => ?_) fun error raised => ?_
      · have total := replaced.trans replaced'
        have fewer' : (group'.val.deleteRule rule.uid).networks ⊆ group.val.networks :=
          (networks_deleteRule_subset rule.uid).trans fewer
        have there' := removed u _ total fewer'
        refine ⟨there', there', _, total, same, fewer', fun sound other member => ?_⟩
        obtain ⟨kept, differs⟩ := List.mem_filter.mp member
        obtain ⟨inside, unvisited⟩ := left sound other kept
        refine ⟨inside, fun visited' => ?_⟩
        rcases List.mem_append.mp visited' with earlier | last
        · exact unvisited earlier
        · rw [List.mem_singleton.mp last] at differs
          simp at differs
      · refine ⟨there, there, group', replaced, same, fewer, fun sound => ?_⟩
        exact absurd ⟨t, _, error, raised⟩ sound
    · intro t ended
      obtain ⟨there, group', replaced, same, fewer, left⟩ := ended
      refine ⟨there, group', replaced, same, fewer, fun sound => ?_⟩
      apply List.eq_nil_iff_forall_not_mem.mpr
      intro rule member
      obtain ⟨inside, outside⟩ := left sound rule member
      exact outside inside
    · exact ⟨here, group, unchanged, rfl, Finset.Subset.refl _, fun _ rule member =>
        ⟨member, List.not_mem_nil⟩⟩
  · rw [ending_error]
    refine ⟨here, group, unchanged, rfl, Finset.Subset.refl _, fun sound => ?_⟩
    exact absurd ⟨w, _, error, raised⟩ sound

/-- Deleting a group by name clears its networks, up to faults, and leaves the
permissions alone. -/
theorem wp_deleteClientGroupByName (rooted : Rooted fsName w) :
    (deleteClientGroupByName name).wp (service fault)
      (passing (Exporting fsName ((nfsState fsName w).Clearing (· = name))))
      (ending
        (fun _ t => Exporting fsName ((nfsState fsName w).Clearing (· = name)) t ∧
          (¬ Possible fault → (nfsState fsName t name).networks = none))
        (fun _ t => Possible fault ∧
          Exporting fsName ((nfsState fsName w).Clearing (· = name)) t)) w := by
  have here : Exporting fsName ((nfsState fsName w).Clearing (· = name)) w := ⟨rooted, .refl⟩
  unfold deleteClientGroupByName
  rw [wp_bind, onOk_ending]
  refine wp_getClientGroupByName here ?_ fun error raised => ⟨⟨w, _, error, raised⟩, here⟩
  rw [ending_ok]
  cases found : w.cluster.clientGroups.find? name with
  | none => exact ⟨here, fun _ => by simp only [nfsState, found, Option.map_none]⟩
  | some group =>
      dsimp only
      rw [wp_tryCatch, onError_ending]
      unfold deleteClientGroup
      rw [wp_bind, onOk_ending]
      refine wp_consequence (wp_deleteClientGroupRules found here ?_) ?_
      · intro t group' replaced fewer
        refine ⟨replaced.rooted rooted, replaced.clearing found fun entry equal => ?_⟩
        cases equal
        exact fewer
      intro outcome t ended
      cases outcome with
      | error error => exact ended.elim
      | ok value =>
          obtain ⟨there, group', replaced, same, fewer, emptied⟩ := ended
          rw [ending_ok, ← same]
          apply wp_deleteClientGroupRequest replaced.found
          · intro u _ replaced'
            have total := replaced.trans replaced'
            have cleared : Exporting fsName ((nfsState fsName w).Clearing (· = name)) u :=
              ⟨total.rooted rooted, total.clearing found fun entry equal => by cases equal⟩
            refine ⟨cleared, cleared, fun _ => ?_⟩
            simp only [nfsState, total.found, Option.map_none]
          · intro rules
            have possible : Possible fault := by
              by_contra sound
              exact rules (emptied sound)
            refine ⟨there, ?_⟩
            rw [ending_error, wp_ite]
            split
            · exact ⟨there, fun sound => absurd possible sound⟩
            · exact ⟨possible, there⟩
          · intro error raised
            have possible : Possible fault := ⟨t, _, error, raised⟩
            refine ⟨there, ?_⟩
            rw [ending_error, wp_ite]
            split
            · exact ⟨there, fun sound => absurd possible sound⟩
            · exact ⟨possible, there⟩

end Groups

section Collect

variable {fault : Fault} {w : World} {fsName : String} {selected : String → Prop}

/-- A group with a permission that is selected by its name. -/
def NfsState.Exported (state : NfsState) (selected : String → Prop) (name : String) : Prop :=
  (state name).permission.isSome = true ∧ selected name

instance (state : NfsState) [DecidablePred selected] :
    DecidablePred (state.Exported selected) := fun name =>
  inferInstanceAs (Decidable ((state name).permission.isSome = true ∧ selected name))

/-- One round of collecting: a permission that is not selected is skipped; a
selected one is deleted and its group's name collected, up to faults. -/
structure Collecting (fault : Fault) (fsName : String) (selected : String → Prop)
    (step : List String → Entry NfsPermission → Driver (List String)) : Prop where
  skips : ∀ names perm, ¬ (perm.val.filesystem = fsName ∧ selected perm.val.group) →
    step names perm = pure names
  takes : ∀ names (perm : Entry NfsPermission) (u : World) (passed : World → Prop),
    perm.val.filesystem = fsName → selected perm.val.group → perm.val.group ≠ "" →
    u.cluster.permissions.find? (Keyed.key perm.val) = some perm → passed u →
    (∀ v, PermissionReplaced u v (Keyed.key perm.val) none → passed v) →
    (step names perm).wp (service fault) (passing passed)
      (ending
        (fun names' v => (names' = names.insert perm.val.group ∧
            PermissionReplaced u v (Keyed.key perm.val) none) ∨
          Possible fault ∧ (names' = names ∨ names' = names.insert perm.val.group) ∧ v = u)
        (fun _ v => Possible fault ∧ v = u)) u

/-- What has been collected once some of the permissions are visited. -/
structure Collected (fault : Fault) (fsName : String) (selected : String → Prop) (w : World)
    (visited : List (Entry NfsPermission)) (names : List String) (t : World) : Prop where
  exporting : Exporting fsName
    ((nfsState fsName w).Clearing ((nfsState fsName w).Exported selected)) t
  left : ∀ perm ∈ w.cluster.permissions.rows, perm ∉ visited →
    t.cluster.permissions.find? (Keyed.key perm.val) = some perm
  named : ∀ name ∈ names, (nfsState fsName w).Exported selected name
  taken : ¬ Possible fault → ∀ perm ∈ visited, perm.val.filesystem = fsName →
    selected perm.val.group →
      t.cluster.permissions.find? (Keyed.key perm.val) = none ∧ perm.val.group ∈ names

/-- A permission of a rooted filesystem is the one of its group. -/
theorem key_of_rooted {perm : Entry NfsPermission} (rooted : Rooted fsName w)
    (member : perm ∈ w.cluster.permissions.rows) (filesystem : perm.val.filesystem = fsName) :
    Keyed.key perm.val = (fsName, perm.val.group, "/") ∧ perm.val.group ≠ "" := by
  have key : Keyed.key perm.val = (fsName, perm.val.group, perm.val.path) := by
    rw [← filesystem]
    rfl
  have found := Registry.find?_of_mem member
  rw [key] at found
  obtain ⟨root, named⟩ := rooted _ _ perm found
  rw [key, root]
  exact ⟨rfl, named⟩

/-- One more chosen permission is collected, with the name of its group. -/
theorem Collected.take {visited : List (Entry NfsPermission)} {perm : Entry NfsPermission}
    {names names' : List String} {t u : World} (rooted : Rooted fsName w)
    (collected : Collected fault fsName selected w visited names t)
    (member : perm ∈ w.cluster.permissions.rows)
    (filesystem : perm.val.filesystem = fsName) (chosen : selected perm.val.group)
    (inserted : names' = names.insert perm.val.group)
    (replaced : PermissionReplaced t u (Keyed.key perm.val) none) :
    Collected fault fsName selected w (visited ++ [perm]) names' u := by
  obtain ⟨key, _⟩ := key_of_rooted rooted member filesystem
  have exported : (nfsState fsName w).Exported selected perm.val.group := by
    have found := Registry.find?_of_mem member
    rw [key] at found
    refine ⟨?_, chosen⟩
    simp only [nfsState, found, Option.map_some, Option.isSome_some]
  subst inserted
  refine ⟨⟨?_, ?_⟩, ?_, ?_, ?_⟩
  · rw [key] at replaced
    exact replaced.rooted collected.exporting.1 fun impossible => by cases impossible
  · apply collected.exporting.2.trans
    intro name
    rw [key] at replaced
    rw [replaced.nfsState]
    by_cases same : name = perm.val.group
    · subst same
      right
      rw [Function.update_self]
      exact ⟨exported, GroupAccess.Retracting.refl.networks, Or.inl rfl⟩
    · left
      rw [Function.update_of_ne same]
  · intro other inside unvisited
    rw [List.mem_append, List.mem_singleton, not_or] at unvisited
    rw [replaced.lookup, Function.update_of_ne]
    · exact collected.left other inside unvisited.1
    · intro same
      exact unvisited.2 (Registry.eq_of_key _ inside member same)
  · intro name inside
    rcases List.mem_insert_iff.mp inside with rfl | earlier
    · exact exported
    · exact collected.named name earlier
  · intro sound other inside filesystem' chosen'
    rw [replaced.lookup]
    by_cases same : other = perm
    · rw [same, Function.update_self]
      exact ⟨rfl, List.mem_insert_self⟩
    · have earlier : other ∈ visited := by
        rcases List.mem_append.mp inside with earlier | last
        · exact earlier
        · exact absurd (List.mem_singleton.mp last) same
      obtain ⟨gone, named⟩ := collected.taken sound other earlier filesystem' chosen'
      refine ⟨?_, List.mem_insert_of_mem named⟩
      by_cases keys : Keyed.key other.val = Keyed.key perm.val
      · rw [keys, Function.update_self]
      · rw [Function.update_of_ne keys, gone]

/-- Without a deletion, a permission can be passed over only by a fault. -/
theorem Collected.pass {visited : List (Entry NfsPermission)} {perm : Entry NfsPermission}
    {names names' : List String} {t : World} (rooted : Rooted fsName w)
    (collected : Collected fault fsName selected w visited names t)
    (member : perm ∈ w.cluster.permissions.rows)
    (passed : ¬ (perm.val.filesystem = fsName ∧ selected perm.val.group) ∧ names' = names ∨
      Possible fault ∧ perm.val.filesystem = fsName ∧ selected perm.val.group ∧
        (names' = names ∨ names' = names.insert perm.val.group)) :
    Collected fault fsName selected w (visited ++ [perm]) names' t := by
  refine ⟨collected.exporting, ?_, ?_, ?_⟩
  · intro other inside unvisited
    rw [List.mem_append, not_or] at unvisited
    exact collected.left other inside unvisited.1
  · intro name inside
    rcases passed with ⟨_, rfl⟩ | ⟨_, filesystem, chosen, rfl | rfl⟩
    · exact collected.named name inside
    · exact collected.named name inside
    · rcases List.mem_insert_iff.mp inside with rfl | earlier
      · obtain ⟨key, _⟩ := key_of_rooted rooted member filesystem
        have found := Registry.find?_of_mem member
        rw [key] at found
        refine ⟨?_, chosen⟩
        simp only [nfsState, found, Option.map_some, Option.isSome_some]
      · exact collected.named name earlier
  · intro sound other inside filesystem chosen
    rcases passed with ⟨skipped, rfl⟩ | ⟨possible, _⟩
    · rcases List.mem_append.mp inside with earlier | last
      · exact collected.taken sound other earlier filesystem chosen
      · rw [List.mem_singleton.mp last] at filesystem chosen
        exact absurd ⟨filesystem, chosen⟩ skipped
    · exact absurd possible sound

private theorem wp_collect {step : List String → Entry NfsPermission → Driver (List String)}
    (rooted : Rooted fsName w) (collecting : Collecting fault fsName selected step) :
    (w.cluster.permissions.rows.foldlM step []).wp (service fault)
      (passing (Exporting fsName
        ((nfsState fsName w).Clearing ((nfsState fsName w).Exported selected))))
      (ending (Collected fault fsName selected w w.cluster.permissions.rows)
        (fun _ t => Possible fault ∧ Exporting fsName
          ((nfsState fsName w).Clearing ((nfsState fsName w).Exported selected)) t)) w := by
  refine wp_foldlM (Collected fault fsName selected w) _ ?_ (fun _ _ collected => collected) ?_
  · intro visited perm rest names t split collected
    have member : perm ∈ w.cluster.permissions.rows := by simp [split]
    have fresh : perm ∉ visited := by
      have distinct := w.cluster.permissions.nodup_rows
      rw [split] at distinct
      intro earlier
      exact (List.nodup_append.mp distinct).2.2 perm earlier perm List.mem_cons_self rfl
    rw [onOk_ending]
    by_cases chosen : perm.val.filesystem = fsName ∧ selected perm.val.group
    · obtain ⟨filesystem, chosen⟩ := chosen
      obtain ⟨_, named⟩ := key_of_rooted rooted member filesystem
      have present := collected.left perm member fresh
      refine wp_weaken (collecting.takes names perm t _ filesystem chosen named present
        collected.exporting fun u replaced =>
          (collected.take rooted member filesystem chosen rfl replaced).exporting)
        (fun _ passed => passed) ?_ ?_
      · intro names' u ended
        rcases ended with ⟨inserted, replaced⟩ | ⟨possible, kept, rfl⟩
        · exact collected.take rooted member filesystem chosen inserted replaced
        · exact collected.pass rooted member (Or.inr ⟨possible, filesystem, chosen, kept⟩)
      · intro _ u raised
        obtain ⟨possible, rfl⟩ := raised
        exact ⟨possible, collected.exporting⟩
    · rw [collecting.skips names perm chosen]
      exact collected.pass rooted member (Or.inl ⟨chosen, rfl⟩)
  · refine ⟨⟨rooted, .refl⟩, ?_, ?_, ?_⟩
    · intro perm member _
      exact Registry.find?_of_mem member
    · intro name impossible
      cases impossible
    · intro _ perm impossible
      cases impossible

/-- Without faults, every selected permission is gone and its group is named. -/
theorem Collected.complete {names : List String} {t : World} {name : String}
    (collected : Collected fault fsName selected w w.cluster.permissions.rows names t)
    (sound : ¬ Possible fault) (exported : (nfsState fsName w).Exported selected name) :
    (nfsState fsName t name).permission = none ∧ name ∈ names := by
  obtain ⟨present, chosen⟩ := exported
  cases found : w.cluster.permissions.find? (fsName, name, "/") with
  | none => simp [nfsState, found] at present
  | some perm =>
      obtain ⟨member, key⟩ := Registry.find?_eq_some_iff.mp found
      have parts : (perm.val.filesystem, perm.val.group, perm.val.path) = (fsName, name, "/") := key
      simp only [Prod.mk.injEq] at parts
      obtain ⟨filesystem, group, _⟩ := parts
      rw [← group] at chosen
      obtain ⟨gone, named⟩ := collected.taken sound perm member filesystem chosen
      rw [key] at gone
      rw [group] at named
      exact ⟨by simp only [nfsState, gone, Option.map_none], named⟩

/-- Deleting the groups collected leaves their access cleared. -/
theorem wp_deleteCollected {names : List String} {t : World} (delete : String → Driver Unit)
    (collected : Collected fault fsName selected w w.cluster.permissions.rows names t)
    (deletes : ∀ (name : String) (u : World), Rooted fsName u →
      (delete name).wp (service fault)
        (passing (Exporting fsName ((nfsState fsName u).Clearing (· = name))))
        (ending
          (fun _ v => Exporting fsName ((nfsState fsName u).Clearing (· = name)) v ∧
            (¬ Possible fault → (nfsState fsName v name).networks = none))
          (fun _ v => Possible fault ∧
            Exporting fsName ((nfsState fsName u).Clearing (· = name)) v)) u)
    (ordered : List String) (perm : ordered.Perm names) :
    (ordered.forM delete).wp (service fault)
      (passing (Exporting fsName
        ((nfsState fsName w).Clearing ((nfsState fsName w).Exported selected))))
      (ending
        (fun _ u => Exporting fsName
            ((nfsState fsName w).Clearing ((nfsState fsName w).Exported selected)) u ∧
          (¬ Possible fault → ∀ name, (nfsState fsName w).Exported selected name →
            nfsState fsName u name = .absent))
        (fun _ u => Possible fault ∧ Exporting fsName
          ((nfsState fsName w).Clearing ((nfsState fsName w).Exported selected)) u)) t := by
  refine wp_forM (fun visited u => Exporting fsName
      ((nfsState fsName w).Clearing ((nfsState fsName w).Exported selected)) u ∧
    (¬ Possible fault → (∀ name, (nfsState fsName w).Exported selected name →
        (nfsState fsName u name).permission = none) ∧
      ∀ name ∈ visited, (nfsState fsName u name).networks = none)) ordered ?_ ?_ ?_
  · intro visited name rest u split reached
    obtain ⟨⟨rooted, cleared⟩, gone⟩ := reached
    have member : name ∈ names := perm.mem_iff.mp (by simp [split])
    have exported := collected.named name member
    -- Clearing one collected group is part of clearing them all.
    have widen : ∀ v, Exporting fsName ((nfsState fsName u).Clearing (· = name)) v →
        Exporting fsName
          ((nfsState fsName w).Clearing ((nfsState fsName w).Exported selected)) v := by
      intro v left
      refine ⟨left.1, cleared.trans (left.2.mono fun other same => ?_)⟩
      rw [same]
      exact exported
    rw [onOk_ending]
    refine wp_weaken (deletes name u rooted) widen ?_ ?_
    · intro _ v ended
      obtain ⟨left, deleted⟩ := ended
      refine ⟨widen v left, fun sound => ⟨fun other exported' => ?_, fun other inside => ?_⟩⟩
      · exact left.2.permission_none ((gone sound).1 other exported')
      · rcases List.mem_append.mp inside with earlier | last
        · exact left.2.networks_none ((gone sound).2 other earlier)
        · rw [List.mem_singleton.mp last]
          exact deleted sound
    · intro _ v raised
      exact ⟨raised.1, widen v raised.2⟩
  · intro u reached
    refine ⟨reached.1, fun sound name exported => ?_⟩
    obtain ⟨gone, emptied⟩ := reached.2 sound
    have inside : name ∈ ordered := perm.mem_iff.mpr (collected.complete sound exported).2
    exact GroupAccess.ext (emptied name inside) (gone name exported)
  · refine ⟨collected.exporting, fun sound => ⟨fun name exported => ?_, fun name impossible => ?_⟩⟩
    · exact (collected.complete sound exported).1
    · cases impossible

end Collect

/-! ## The three removals -/

section Removals

variable {fault : Fault} {w : World} {fsName : String} {cfg : Config} {share : Share}

/-- What a removal of the selected groups does: up to faults their access is
cleared, and nothing else is touched. -/
def Clears (fault : Fault) (fsName : String) (selected : String → Prop) [DecidablePred selected]
    (program : Driver Unit) (w : World) : Prop :=
  program.wp (service fault)
    (passing (Exporting fsName
      ((nfsState fsName w).Clearing ((nfsState fsName w).Exported selected))))
    (ending
      (fun _ t => Exporting fsName
          ((nfsState fsName w).Clearing ((nfsState fsName w).Exported selected)) t ∧
        (¬ Possible fault →
          nfsState fsName t = (nfsState fsName w).clear ((nfsState fsName w).Exported selected)))
      (fun _ t => Possible fault ∧ Exporting fsName
        ((nfsState fsName w).Clearing ((nfsState fsName w).Exported selected)) t)) w

/-- Collecting the selected permissions and deleting their groups clears their
access. -/
theorem clears_of_collecting {selected : String → Prop} [DecidablePred selected]
    {step : List String → Entry NfsPermission → Driver (List String)} (rooted : Rooted fsName w)
    (collecting : Collecting fault fsName selected step) (delete : String → Driver Unit)
    (deletes : ∀ (name : String) (u : World), Rooted fsName u →
      (delete name).wp (service fault)
        (passing (Exporting fsName ((nfsState fsName u).Clearing (· = name))))
        (ending
          (fun _ v => Exporting fsName ((nfsState fsName u).Clearing (· = name)) v ∧
            (¬ Possible fault → (nfsState fsName v name).networks = none))
          (fun _ v => Possible fault ∧
            Exporting fsName ((nfsState fsName u).Clearing (· = name)) v)) u) :
    Clears fault fsName selected (do
      let permissions ← send .admin .listNfsPermissions
      let names ← permissions.foldlM step []
      (cfg.iterationOrder names).forM delete) w := by
  have here : Exporting fsName
      ((nfsState fsName w).Clearing ((nfsState fsName w).Exported selected)) w := ⟨rooted, .refl⟩
  unfold Clears
  rw [wp_bind, onOk_ending]
  refine wp_listNfsPermissions here ?_ fun error raised => ⟨⟨w, _, error, raised⟩, here⟩
  rw [ending_ok]
  refine wp_bind_of _ (wp_collect rooted collecting) fun names t collected => ?_
  refine wp_weaken (wp_deleteCollected delete collected deletes _ (cfg.iterationPerm names))
    (fun _ passed => passed) ?_ fun _ _ raised => raised
  intro _ u ended
  refine ⟨ended.1, fun sound => ?_⟩
  funext name
  unfold NfsState.clear
  split
  · next exported => exact ended.2 sound name exported
  · next other => exact ended.1.2.of_not other

/-- The deletion of a permission that is there. -/
theorem wp_deletePresentPermission {perm : Entry NfsPermission} {passed : World → Prop}
    {done : Unit → World → Prop} {raised : Error → World → Prop}
    (present : w.cluster.permissions.find? (Keyed.key perm.val) = some perm) (here : passed w)
    (deleted : ∀ t, PermissionReplaced w t (Keyed.key perm.val) none → passed t ∧ done () t)
    (failed : ∀ error, Possible fault → raised error w) :
    (send .admin (.deleteNfsPermission perm.uid)).wp (service fault) (passing passed)
      (ending done raised) w := by
  have held := Registry.get?_of_find? present
  refine wp_deleteNfsPermission ?_ ?_ fun error raised => ⟨here, failed error ⟨w, _, error, raised⟩⟩
  · intro perm' t held' replaced
    rw [held, Option.some.injEq] at held'
    subst held'
    exact deleted t replaced
  · intro gone
    rw [held] at gone
    cases gone

private theorem collecting_removeMatchingPermission (fragment : String) :
    Collecting fault fsName (fun name => Text.contains name fragment = true)
      (removeMatchingPermission fsName fragment) := by
  constructor
  · intro names perm skipped
    unfold removeMatchingPermission
    rw [if_neg skipped]
  · intro names perm u passed filesystem chosen named present here taken
    unfold removeMatchingPermission
    rw [if_pos ⟨filesystem, chosen⟩, wp_bind, onOk_ending]
    refine wp_deletePresentPermission present here (fun v replaced => ⟨taken v replaced, ?_⟩)
      fun error possible => ⟨possible, rfl⟩
    rw [if_neg named]
    exact Or.inl ⟨rfl, replaced⟩

private theorem collecting_prunePermission (front : String) (expected : List String) :
    Collecting fault fsName
      (fun name => Text.startsWith name front = true ∧ name ∉ expected)
      (prunePermission fsName front expected) := by
  constructor
  · intro names perm skipped
    unfold prunePermission
    rw [if_neg skipped]
  · intro names perm u passed filesystem chosen named present here taken
    unfold prunePermission
    rw [if_pos ⟨filesystem, chosen.1, chosen.2⟩, wp_tryCatch, onError_ending, wp_bind,
      onOk_ending]
    refine wp_deletePresentPermission present here (fun v replaced => ⟨taken v replaced, ?_⟩)
      fun error possible => ?_
    · exact Or.inl ⟨rfl, replaced⟩
    · exact Or.inr ⟨possible, Or.inl rfl, rfl⟩

/-- Removing a rule clears the groups whose name contains the start of its id. -/
theorem wp_removeNfsRule (rooted : Rooted fsName w) (rule : AccessRule) :
    Clears fault fsName (fun name => Text.contains name (Text.take rule.accessId 8) = true)
      (removeNfsRule cfg fsName rule) w :=
  clears_of_collecting rooted (collecting_removeMatchingPermission _) deleteClientGroupByName
    fun _ _ rooted' => wp_deleteClientGroupByName rooted'

/-- Pruning clears the share's groups that no rule expects. -/
theorem wp_pruneNfsRules (rooted : Rooted fsName w) (rules : List AccessRule) :
    Clears fault fsName
      (fun name => Text.startsWith name (nfsCgPrefix share.id) = true ∧
        name ∉ rules.map fun rule => nfsCgName share.id rule.accessId)
      (pruneNfsRules cfg share fsName rules) w := by
  refine clears_of_collecting rooted (collecting_prunePermission _ _)
    (fun cgName => tryCatch (deleteClientGroupByName cgName) fun _ => pure ()) ?_
  intro name u rooted'
  refine wp_tryCatch_of (fun _ v => Possible fault ∧
    Exporting fsName ((nfsState fsName u).Clearing (· = name)) v)
    (wp_deleteClientGroupByName rooted') fun _ v raised => ?_
  exact ⟨raised.2, fun sound => absurd raised.1 sound⟩

end Removals

end WekaShareDriver
