import WekaShareDriver.ApiClient
import Mathlib.Data.List.Forall2

/-! # The events that start the CI

`parse_event` of `gerrit-listener.py` reads an event of a Gerrit server and tells which patch set to
run, if any. A run executes the code of a change on a host that holds the credentials of the
cluster, so what matters is what is let through: a trigger is about a change to the project and the
branch of the settings (`WekaShareDriver.Gerrit.About`), and it comes from a comment of somebody who
is trusted, or from a new patch set where the listener runs by itself
(`WekaShareDriver.Gerrit.Allowed`).
-/

namespace WekaShareDriver

open Foundation

namespace Gerrit

/-- A JSON value; a number with a fraction is written as Python shows it. -/
inductive Json where
  | null
  | bool (value : Bool)
  | int (value : Int)
  | float (text : String)
  | str (text : String)
  | arr (items : List Json)
  | obj (fields : List (String × Json))

/-- The exceptions that a malformed event raises. -/
inductive PyError where
  | attribute
  | key (name : String)
  | type
  deriving DecidableEq

/-- `value.get(name, default)` -/
def Json.get (value : Json) (name : String) (default : Json) : Except PyError Json :=
  match value with
  | .obj fields => .ok ((List.lookup name fields).getD default)
  | _ => .error .attribute

/-- `value[name]` -/
def Json.item (value : Json) (name : String) : Except PyError Json :=
  match value with
  | .obj fields =>
      match List.lookup name fields with
      | some field => .ok field
      | none => .error (.key name)
  | _ => .error .type

/-- `value or ''` -/
def Json.orEmpty : Json → Json
  | .null => .str ""
  | .bool false => .str ""
  | .int 0 => .str ""
  | .float "0.0" => .str ""
  | .float "-0.0" => .str ""
  | .arr [] => .str ""
  | .obj [] => .str ""
  | value => value

/-- What the program asks of the text of an event: the characters of a word, which characters
match a letter whatever their case, small letters, and how a value is shown that is neither a
string nor a number. -/
structure Texts where
  word : Char → Bool
  alike : Char → Char → Bool
  lower : String → String
  repr : Json → String

/-- The settings of the listener. -/
structure Settings extends Texts where
  project : String
  branch : String
  autoRun : Bool
  ciTrustedUsers : String

/-- `u.strip().lower()` for each name of `CI_TRUSTED_USERS` that is not blank. -/
def Settings.trustedUsers (settings : Settings) : List String :=
  (((Text.splitOn settings.ciTrustedUsers ',').map Text.strip).filter (· ≠ "")).map settings.lower

section Parse

variable (settings : Settings)

/-- `str(value)` -/
def Settings.str : Json → String
  | .str text => text
  | .int value => toString value
  | .float text => text
  | .null => "None"
  | .bool true => "True"
  | .bool false => "False"
  | value => settings.repr value

/-- `\bword\b`, in any case. -/
def Settings.wordPattern (word : String) : Regex :=
  .seq (.boundary settings.word)
    (.seq (.spelled settings.alike word.toList) (.boundary settings.word))

/-- `re.search(r"\bword\b", text, re.IGNORECASE)` -/
def Settings.mentions (text word : String) : Bool :=
  ((settings.wordPattern word).search text.toList).isSome

/-- What to run: a change, its patch set and revision, and whether it was asked for. -/
structure Trigger where
  change : String
  patchset : String
  revision : Json
  recheck : Bool

/-- The change of an event and its patch set, as a trigger. -/
def Settings.trigger (event change : Json) (recheck : Bool) : Except PyError Trigger := do
  let patchset ← event.get "patchSet" (.obj [])
  let number ← change.item "number"
  let patchsetNumber ← patchset.item "number"
  let revision ← patchset.item "revision"
  return ⟨settings.str number, settings.str patchsetNumber, revision, recheck⟩

/-- The user who wrote a comment, in small letters. -/
def Settings.author (event : Json) : Except PyError String := do
  let author ← event.get "author" (.obj [])
  let username ← author.get "username" .null
  match username.orEmpty with
  | .str name => return settings.lower name
  | _ => throw .attribute

/-- The trigger of an event that should start a run. -/
def Settings.parseEvent (event : Json) : Except PyError (Option Trigger) := do
  let etype ← event.get "type" .null
  let change ← event.get "change" (.obj [])
  match ← change.get "project" (.str "") with
  | .str project =>
      if project ≠ settings.project then
        return none
      else
        match ← change.get "branch" (.str "") with
        | .str branch =>
            if branch ≠ settings.branch then
              return none
            else
              match etype with
              | .str "patchset-created" =>
                  if settings.autoRun = false then
                    return none
                  else
                    return some (← settings.trigger event change false)
              | .str "comment-added" =>
                  match ← event.get "comment" (.str "") with
                  | .str comment =>
                      let triggered := settings.mentions comment "run-weka-ci" ||
                        (settings.autoRun && settings.mentions comment "recheck")
                      if triggered = false then
                        return none
                      else if settings.trustedUsers ≠ [] then
                        let author ← settings.author event
                        if author ∉ settings.trustedUsers then
                          return none
                        else
                          return some (← settings.trigger event change true)
                      else
                        return some (← settings.trigger event change true)
                  | _ => throw .type
              | _ => return none
        | _ => return none
  | _ => return none

end Parse

/-! ## Which events are triggers -/

/-- The field of an object. -/
def Json.field? (value : Json) (name : String) : Option Json :=
  match value with
  | .obj fields => List.lookup name fields
  | _ => none

private theorem Json.get_eq_ok {value default field : Json} {name : String}
    (got : value.get name default = .ok field) : (value.field? name).getD default = field := by
  cases value with
  | obj fields => exact Except.ok.inj got
  | null => cases got
  | bool value => cases got
  | int value => cases got
  | float text => cases got
  | str text => cases got
  | arr items => cases got

private theorem Json.item_eq_ok {value field : Json} {name : String}
    (got : value.item name = .ok field) :
    value.field? name = some field := by
  cases value with
  | obj fields =>
      simp only [Json.item] at got
      split at got
      · next value found => exact found.trans (congrArg some (Except.ok.inj got))
      · cases got
  | null => cases got
  | bool value => cases got
  | int value => cases got
  | float text => cases got
  | str text => cases got
  | arr items => cases got

/-- A computation that may raise returns where both its parts do. -/
theorem ok_of_bind {ε α β : Type} {first : Except ε α} {rest : α → Except ε β} {result : β}
    (returned : first >>= rest = .ok result) :
    ∃ value, first = .ok value ∧ rest value = .ok result := by
  cases first with
  | ok value => exact ⟨value, rfl, returned⟩
  | error error => cases returned

section Events

variable (settings : Settings)

/-- A word stands in a text by itself, in any case. -/
def Mentions (text word : String) : Prop :=
  ∃ before said after, text.toList = before ++ said ++ after ∧
    List.Forall₂ (fun char other => settings.alike char other) word.toList said ∧
    Regex.atBoundary settings.word ⟨before.reverse, said ++ after⟩ ∧
    Regex.atBoundary settings.word ⟨(before ++ said).reverse, after⟩

/-- An event is about the patch set that a trigger names, of a change to the project and the branch
of the settings. -/
structure About (event : Json) (trigger : Trigger) : Prop where
  change : ∃ change number, event.field? "change" = some change ∧
    (change.field? "project").getD (.str "") = .str settings.project ∧
    (change.field? "branch").getD (.str "") = .str settings.branch ∧
    change.field? "number" = some number ∧ trigger.change = settings.str number
  patchSet : ∃ patchSet number, event.field? "patchSet" = some patchSet ∧
    patchSet.field? "number" = some number ∧ trigger.patchset = settings.str number ∧
    patchSet.field? "revision" = some trigger.revision

/-- What the settings let start a run: a new patch set, where the listener runs by itself, or a
comment that asks for it, written by a trusted user if there are any. -/
inductive Allowed (event : Json) : Bool → Prop where
  | created : event.field? "type" = some (.str "patchset-created") → settings.autoRun = true →
      Allowed event false
  | asked (comment word : String) : event.field? "type" = some (.str "comment-added") →
      (event.field? "comment").getD (.str "") = .str comment → Mentions settings comment word →
      word = "run-weka-ci" ∨ settings.autoRun = true ∧ word = "recheck" →
      (settings.trustedUsers ≠ [] →
        ∃ author ∈ settings.trustedUsers, settings.author event = .ok author) →
      Allowed event true

variable {settings}

private theorem mentions_iff {text word : String} :
    settings.mentions text word = true ↔ Mentions settings text word := by
  have matched (front after : List Char) :
      ((settings.wordPattern word).matchAt ⟨front.reverse ++ [], after⟩).isSome ↔
        Regex.atBoundary settings.word ⟨front.reverse, after⟩ ∧ ∃ said rest, after = said ++ rest ∧
          List.Forall₂ (fun char other => settings.alike char other) word.toList said ∧
          Regex.atBoundary settings.word ⟨(front ++ said).reverse, rest⟩ := by
    rw [List.append_nil]
    simp only [Settings.wordPattern, Regex.matchAt, Regex.run]
    split
    · next bound =>
        rw [Regex.isSome_run_spelled]
        simp only [bound, true_and]
        refine exists_congr fun said => exists_congr fun rest => ?_
        rw [List.reverse_append]
        split <;> simp_all
    · next unbound => simp [unbound]
  constructor
  · intro found
    obtain ⟨here, found⟩ := Option.isSome_iff_exists.mp found
    obtain ⟨front, after, split, match', -⟩ := Regex.searchFrom_eq_some_iff.mp found
    obtain ⟨bound, said, rest, rfl, alike, bound'⟩ :=
      (matched front after).mp (Option.isSome_iff_exists.mpr ⟨here, match'⟩)
    exact ⟨front, said, rest, by rw [split, List.append_assoc], alike, bound, bound'⟩
  · rintro ⟨before, said, after, split, alike, bound, bound'⟩
    unfold Settings.mentions Regex.search
    rw [split, List.append_assoc]
    exact Regex.isSome_searchFrom ((matched before _).mpr ⟨bound, said, after, rfl, alike, bound'⟩)

private theorem trigger_eq_ok {event change : Json} {recheck : Bool} {trigger : Trigger}
    (made : settings.trigger event change recheck = .ok trigger) :
    trigger.recheck = recheck ∧
      (∃ number, change.field? "number" = some number ∧ trigger.change = settings.str number) ∧
      ∃ patchSet number, (event.field? "patchSet").getD (.obj []) = patchSet ∧
        patchSet.field? "number" = some number ∧ trigger.patchset = settings.str number ∧
        patchSet.field? "revision" = some trigger.revision := by
  obtain ⟨patchSet, got, made⟩ := ok_of_bind made
  obtain ⟨number, numbered, made⟩ := ok_of_bind made
  obtain ⟨number', numbered', made⟩ := ok_of_bind made
  obtain ⟨revision, revised, made⟩ := ok_of_bind made
  cases made
  exact ⟨rfl, ⟨number, Json.item_eq_ok numbered, rfl⟩, patchSet, number', Json.get_eq_ok got,
    Json.item_eq_ok numbered', rfl, Json.item_eq_ok revised⟩

/-- An object that has a field is there. -/
theorem eq_some_of_field {found : Option Json} {name : String} {field : Json}
    (there : (found.getD (.obj [])).field? name = some field) :
    found = some (found.getD (.obj [])) := by
  cases found with
  | none => cases there
  | some value => rfl

/-- A trigger is about the patch set of its event, which the settings let start a run. -/
theorem parseEvent_eq_some {event : Json} {trigger : Trigger}
    (parsed : settings.parseEvent event = .ok (some trigger)) :
    About settings event trigger ∧ Allowed settings event trigger.recheck := by
  obtain ⟨etype, type, parsed⟩ := ok_of_bind parsed
  obtain ⟨change, about, parsed⟩ := ok_of_bind parsed
  obtain ⟨project, inProject, parsed⟩ := ok_of_bind parsed
  split at parsed
  case h_2 => cases parsed
  next project =>
  split at parsed
  · cases parsed
  next sameProject =>
  obtain ⟨branch, onBranch, parsed⟩ := ok_of_bind parsed
  split at parsed
  case h_2 => cases parsed
  next branch =>
  split at parsed
  · cases parsed
  next sameBranch =>
  have named {recheck : Bool} (made : settings.trigger event change recheck = .ok trigger) :
      About settings event trigger ∧ trigger.recheck = recheck := by
    obtain ⟨same, ⟨number, numbered, rfl'⟩, patchSet, number', got, numbered', rfl'', revised⟩ :=
      trigger_eq_ok made
    have here := Json.get_eq_ok about
    subst here got
    refine ⟨⟨⟨_, number, eq_some_of_field numbered, ?_, ?_, numbered, rfl'⟩,
      ⟨_, number', eq_some_of_field numbered', numbered', rfl'', revised⟩⟩, same⟩
    · rw [Json.get_eq_ok inProject, not_not.mp sameProject]
    · rw [Json.get_eq_ok onBranch, not_not.mp sameBranch]
  have typed (text : String) (here : etype = .str text) :
      event.field? "type" = some (.str text) := by
    have got := Json.get_eq_ok type
    rw [here] at got
    cases found : event.field? "type" with
    | none =>
        rw [found] at got
        cases got
    | some value =>
        rw [found] at got
        exact congrArg some got
  split at parsed
  · split at parsed
    · cases parsed
    next auto =>
    obtain ⟨made, returned, rfl''⟩ := ok_of_bind parsed
    cases rfl''
    obtain ⟨about, same⟩ := named returned
    rw [same]
    exact ⟨about, .created (typed _ rfl) (by simpa using auto)⟩
  · obtain ⟨comment, commented, parsed⟩ := ok_of_bind parsed
    split at parsed
    case h_2 => cases parsed
    next comment =>
    dsimp only at parsed
    split at parsed
    · cases parsed
    next triggered =>
    have asked : ∃ word, Mentions settings comment word ∧
        (word = "run-weka-ci" ∨ settings.autoRun = true ∧ word = "recheck") := by
      rw [Bool.not_eq_false, Bool.or_eq_true, Bool.and_eq_true] at triggered
      rcases triggered with there | ⟨auto, there⟩
      · exact ⟨_, mentions_iff.mp there, .inl rfl⟩
      · exact ⟨_, mentions_iff.mp there, .inr ⟨auto, rfl⟩⟩
    obtain ⟨word, there, which⟩ := asked
    split at parsed
    · next some' =>
      obtain ⟨author, wrote, parsed⟩ := ok_of_bind parsed
      split at parsed
      · cases parsed
      next trusted =>
      obtain ⟨made, returned, rfl''⟩ := ok_of_bind parsed
      cases rfl''
      obtain ⟨about, same⟩ := named returned
      rw [same]
      exact ⟨about, .asked comment word (typed _ rfl) (Json.get_eq_ok commented) there which
        fun _ => ⟨author, not_not.mp trusted, wrote⟩⟩
    · next none' =>
      obtain ⟨made, returned, rfl''⟩ := ok_of_bind parsed
      cases rfl''
      obtain ⟨about, same⟩ := named returned
      rw [same]
      exact ⟨about, .asked comment word (typed _ rfl) (Json.get_eq_ok commented) there which
        fun some' => absurd some' none'⟩
  · cases parsed

end Events

end Gerrit

end WekaShareDriver
