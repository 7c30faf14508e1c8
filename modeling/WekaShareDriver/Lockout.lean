import WekaShareDriver.ApiClient
import Mathlib.Data.Bool.AllAny
import Mathlib.Data.List.TakeDrop

/-! # Backing off through a lockout

A 403 that says the account is locked out says for how long, in words or in the compact
form. Each form reaches its own pattern and none before it
(`WekaShareDriver.parseLockoutSeconds_told`), and a login that is told so sleeps once and
raises. What it sleeps is the duration and five seconds more, capped, except that a duration
of no seconds is taken for none (`WekaShareDriver.lockout_respected_iff`).
-/

namespace WekaShareDriver

open Foundation

/-- The forms in which the server writes a duration. -/
inductive LockoutDuration where
  | minutes (count : Nat)
  | seconds (count : Nat)
  | compact (count rest : Nat)
  | bareMinutes (count : Nat)
  | bareSeconds (count : Nat)
  deriving DecidableEq, Repr

namespace LockoutDuration

/-- `<m> minutes`, `<s> seconds`, `<m>m<s>s`, `<m>m` and `<s>s`. -/
def text : LockoutDuration → List Char
  | .minutes count => Nat.toDigits 10 count ++ " minutes".toList
  | .seconds count => Nat.toDigits 10 count ++ " seconds".toList
  | .compact count rest => Nat.toDigits 10 count ++ 'm' :: (Nat.toDigits 10 rest ++ ['s'])
  | .bareMinutes count => Nat.toDigits 10 count ++ ['m']
  | .bareSeconds count => Nat.toDigits 10 count ++ ['s']

/-- The duration in seconds. -/
def total : LockoutDuration → Nat
  | .minutes count => count * 60
  | .seconds count => count
  | .compact count rest => count * 60 + rest
  | .bareMinutes count => count * 60
  | .bareSeconds count => count

end LockoutDuration

/-- A body that says the account is locked out and tells for how long, in any letter case, as
a word of its own among text without digits. -/
structure LockoutMessage (classes : CharClasses) where
  duration : LockoutDuration
  front : List Char
  told : List Char
  back : List Char
  spelled : classes.lower told = duration.text
  front_digit : ∀ char ∈ front, classes.digit char = none
  back_digit : ∀ char ∈ back, classes.digit char = none
  begins_word : front.getLast?.any classes.word = false
  ends_word : back.head?.any classes.word = false
  locked_out : saysLockedOut classes (String.ofList (front ++ (told ++ back)))

/-- The text of the message. -/
def LockoutMessage.body {classes : CharClasses} (message : LockoutMessage classes) : String :=
  String.ofList (message.front ++ (message.told ++ message.back))

/-! ## Small letters -/

namespace CharClasses

variable (classes : CharClasses)

private theorem lower_append (first second : List Char) :
    classes.lower (first ++ second) = classes.lower first ++ classes.lower second :=
  List.flatMap_append

/-- No digit comes of what is none. -/
theorem lower_digit {text : List Char} (none : ∀ char ∈ text, classes.digit char = none) :
    ∀ char ∈ classes.lower text, classes.isDigit char = false := by
  intro char member
  obtain ⟨source, within, small⟩ := List.mem_flatMap.mp member
  rw [isDigit, classes.small_digit source (none source within) char small]
  rfl

/-- No word begins where none began. -/
theorem lower_head {text : List Char} (separate : text.head?.any classes.word = false) :
    (classes.lower text).head?.any classes.word = false := by
  cases text with
  | nil => rfl
  | cons char rest =>
      have apart : classes.word char = false := by simpa using separate
      have split : classes.lower (char :: rest) = classes.small char ++ classes.lower rest :=
        List.flatMap_cons
      cases small : classes.small char with
      | nil => exact absurd small (classes.small_ne_nil char)
      | cons first others =>
          have first' : first ∈ classes.small char := by simp [small]
          rw [split, small]
          exact classes.small_word char apart first first'

private theorem isDigit_letter {char : Char} (letter : char.isAlpha = true) :
    classes.isDigit char = false := by
  rw [isDigit, classes.digit_letter char letter]
  rfl

private theorem isDigit_space {char : Char} (space : Text.isSpace char = true) :
    classes.isDigit char = false := by
  rw [isDigit, classes.digit_space char space]
  rfl

private theorem isDigit_toDigits {number : Nat} {char : Char}
    (member : char ∈ Nat.toDigits 10 number) :
    classes.isDigit char = true := by
  have digit : char.isDigit = true := Nat.isDigit_of_mem_toDigits (by omega) (by omega) member
  rw [isDigit, classes.digit_ascii char digit]
  rfl

/-- A written number is read back. -/
theorem int_toDigits (number : Nat) : classes.int (Nat.toDigits 10 number) = number := by
  have same : ∀ (digits : List Char) (start : Nat), (∀ char ∈ digits, char.isDigit = true) →
      digits.foldl (fun value char => 10 * value + (classes.digit char).getD 0) start =
        Nat.ofDigitChars 10 digits start := by
    intro digits
    induction digits with
    | nil =>
        intro start _
        rw [Nat.ofDigitChars_nil]
        rfl
    | cons char rest ih =>
        intro start all
        have first : classes.digit char = some (char.toNat - '0'.toNat) :=
          classes.digit_ascii char (all char List.mem_cons_self)
        rw [List.foldl_cons, Nat.ofDigitChars_cons, first]
        exact ih _ fun other member => all other (List.mem_cons_of_mem _ member)
  rw [int, same _ _ fun char member => Nat.isDigit_of_mem_toDigits (by omega) (by omega) member]
  exact Nat.ofDigitChars_ten_toDigits

end CharClasses

/-! ## Which pattern a number reaches -/

section Patterns

variable {classes : CharClasses} {pattern : Regex} {begins : Char → Bool}
  {front rest : List Char} {number : Nat}

private theorem begins_spaces (begin' : pattern.Begins begins) :
    (spaces pattern).Begins fun char => Text.isSpace char || begins char := by
  intro captures place next absent
  cases here : place.after with
  | nil =>
      have ends : pattern.run captures place next = none :=
        begin' captures place next (by rw [here]; rfl)
      have stopped : (spaces pattern).run captures place next =
          pattern.run captures ⟨place.before, []⟩ next := by
        rw [spaces, Regex.run, Regex.run, here]
        rfl
      rw [stopped, ← here]
      exact ends
  | cons char others =>
      rw [here, List.head?_cons, Option.any_some, Bool.or_eq_false_iff] at absent
      have stopped : (spaces pattern).run captures place next =
          pattern.run captures ⟨place.before, char :: others⟩ next := by
        rw [spaces, Regex.run, Regex.run, here, Regex.greedy, if_neg (by simp [absent.1])]
      rw [stopped]
      exact begin' _ _ _ (by simpa using absent.2)

/-- A letter begins neither with a digit nor with a space. -/
theorem begins_apart {letter : Char} (alpha : letter.isAlpha = true) (char : Char)
    (digit : classes.isDigit char) : (Text.isSpace char || char == letter) = false := by
  rw [Bool.or_eq_false_iff]
  constructor
  · rw [Bool.eq_false_iff]
    intro space
    rw [classes.isDigit_space space] at digit
    cases digit
  · rw [beq_eq_false_iff_ne]
    rintro rfl
    rw [classes.isDigit_letter alpha] at digit
    cases digit

/-- A number whose unit does not follow is not found. -/
theorem search_number_eq_none {letter : Char} (alpha : letter.isAlpha = true)
    (letterSpace : Text.isSpace letter = false) (begin' : pattern.Begins (· == letter))
    (front_digit : ∀ char ∈ front, classes.isDigit char = false)
    (rest_digit : ∀ char ∈ rest, classes.isDigit char = false)
    (fails : ∀ captures before (next : Regex.Captures → Regex.Cursor → Option Regex.Match),
      pattern.run captures ⟨before, rest.dropWhile Text.isSpace⟩ next = none) :
    (classes.number 1 (spaces pattern)).search (front ++ (Nat.toDigits 10 number ++ rest)) =
      none := by
  apply Regex.searchFrom_group_plus_eq_none (begins_spaces begin') (begins_apart alpha)
    front_digit (fun char member => classes.isDigit_toDigits member) rest_digit
  intro captures before next
  have apart : ∀ char, Text.isSpace char → (char == letter) = false := by
    intro char space
    rw [beq_eq_false_iff_ne]
    rintro rfl
    rw [letterSpace] at space
    cases space
  exact (Regex.run_star_seq begin' apart captures _ next).trans (fails captures _ next)

/-- A group that took a written number holds it. -/
theorem groupInt_of_get? {found : Regex.Match} {name : Nat}
    (took : found.captures.get? name = some (Nat.toDigits 10 number)) :
    classes.groupInt found name = number := by
  rw [CharClasses.groupInt, took]
  exact classes.int_toDigits number

/-- A number whose unit follows is found. -/
theorem search_number (kept : Regex.Captures → Prop) {letter : Char}
    (alpha : letter.isAlpha = true) (letterSpace : Text.isSpace letter = false)
    (begin' : pattern.Begins (· == letter))
    (front_digit : ∀ char ∈ front, classes.isDigit char = false)
    (ends : rest.head?.any classes.isDigit = false)
    (follows : ∀ before, ∃ captures stop,
      (∀ next : Regex.Captures → Regex.Cursor → Option Regex.Match,
        pattern.run (Dict.assign [] 1 (Nat.toDigits 10 number))
          ⟨before, rest.dropWhile Text.isSpace⟩ next = next captures stop) ∧ kept captures) :
    ∃ found, (classes.number 1 (spaces pattern)).search
      (front ++ (Nat.toDigits 10 number ++ rest)) = some found ∧ kept found.captures := by
  have apart : ∀ char, Text.isSpace char → (char == letter) = false := by
    intro char space
    rw [beq_eq_false_iff_ne]
    rintro rfl
    rw [letterSpace] at space
    cases space
  obtain ⟨captures, stop, taken, keeps⟩ := follows
    ((rest.takeWhile Text.isSpace).reverse ++ ((Nat.toDigits 10 number).reverse ++
      (front.reverse ++ [])))
  refine ⟨⟨⟨front.reverse ++ [], Nat.toDigits 10 number ++ rest⟩, stop, captures⟩, ?_, keeps⟩
  apply Regex.searchFrom_group_plus (begins_spaces begin') (begins_apart alpha) front_digit
    Nat.toDigits_ne_nil (fun char member => classes.isDigit_toDigits member) ends
  exact (Regex.run_star_seq begin' apart _ _ _).trans (taken _)

/-- The pattern of the compact form, after its first number. -/
theorem begins_compact : (Regex.seq (.literal ['m'])
    (spaces (classes.number 2 (spaces (.literal ['s']))))).Begins (· == 'm') :=
  (Regex.begins_literal 'm' []).seq

/-- Without a second number there is no compact form. -/
theorem compact_fails (rest_digit : ∀ char ∈ rest, classes.isDigit char = false)
    (captures : Regex.Captures) (before : List Char)
    (next : Regex.Captures → Regex.Cursor → Option Regex.Match) :
    (Regex.seq (.literal ['m']) (spaces (classes.number 2 (spaces (.literal ['s']))))).run
      captures ⟨before, rest⟩ next = none := by
  have begin' : (classes.number 2 (spaces (.literal ['s']))).Begins classes.isDigit :=
    (Regex.begins_one _).seq.group.seq
  have apart : ∀ char, Text.isSpace char → classes.isDigit char = false :=
    fun char space => classes.isDigit_space space
  by_cases first : ['m'] <+: rest
  · obtain ⟨others, rfl⟩ := first
    rw [Regex.run, Regex.run_literal, spaces, Regex.run_star_seq begin' apart]
    apply begin'
    cases here : others.dropWhile Text.isSpace with
    | nil => rfl
    | cons char more =>
        have within : char ∈ others := by
          have member : char ∈ others.dropWhile Text.isSpace := by simp [here]
          exact (List.dropWhile_suffix Text.isSpace).subset member
        exact rest_digit char (List.mem_append_right _ within)
  · exact Regex.run_literal_eq_none first _ _

/-- A unit that stands there is found. -/
theorem search_unit (letter : Char) (others : List Char) (number : Nat) (alpha : letter.isAlpha = true)
    (letterSpace : Text.isSpace letter = false)
    (front_digit : ∀ char ∈ front, classes.isDigit char = false)
    (rest_digit : ∀ char ∈ rest, classes.isDigit char = false)
    (stands : letter :: others <+: rest.dropWhile Text.isSpace) :
    ∃ found, (unitPattern classes (letter :: others)).search
      (front ++ (Nat.toDigits 10 number ++ rest)) = some found ∧
        found.captures.get? 1 = some (Nat.toDigits 10 number) := by
  obtain ⟨after, split⟩ := stands
  apply search_number (fun captures => captures.get? 1 = some (Nat.toDigits 10 number)) alpha
    letterSpace (Regex.begins_literal letter others) front_digit
  · cases rest with
    | nil => rfl
    | cons char more => exact rest_digit char List.mem_cons_self
  · intro before
    refine ⟨Dict.assign [] 1 (Nat.toDigits 10 number),
      ⟨(letter :: others).reverse ++ before, after⟩, fun next => ?_, Dict.get?_assign_self _ _ _⟩
    rw [← split]
    exact Regex.run_literal (letter :: others) _ before after next

/-- A unit that does not stand there is not found. -/
theorem search_unit_eq_none (letter : Char) (others : List Char) (number : Nat)
    (alpha : letter.isAlpha = true)
    (letterSpace : Text.isSpace letter = false)
    (front_digit : ∀ char ∈ front, classes.isDigit char = false)
    (rest_digit : ∀ char ∈ rest, classes.isDigit char = false)
    (absent : ¬ letter :: others <+: rest.dropWhile Text.isSpace) :
    (unitPattern classes (letter :: others)).search
      (front ++ (Nat.toDigits 10 number ++ rest)) = none :=
  search_number_eq_none alpha letterSpace (Regex.begins_literal letter others) front_digit
    rest_digit fun captures _ next => Regex.run_literal_eq_none absent captures next

private theorem begins_letter (letter : Char) :
    (Regex.seq (.literal [letter]) (.boundary classes.word)).Begins (· == letter) :=
  (Regex.begins_literal letter []).seq

/-- A letter that ends a word is found. -/
theorem search_letter (letter : Char) (number : Nat) {back : List Char}
    (alpha : letter.isAlpha = true)
    (letterSpace : Text.isSpace letter = false)
    (front_digit : ∀ char ∈ front, classes.isDigit char = false)
    (separate : back.head?.any classes.word = false) :
    ∃ found, (letterPattern classes letter).search
      (front ++ (Nat.toDigits 10 number ++ letter :: back)) = some found ∧
        found.captures.get? 1 = some (Nat.toDigits 10 number) := by
  have drop : (letter :: back).dropWhile Text.isSpace = letter :: back :=
    List.dropWhile_cons_of_neg (by simp [letterSpace])
  apply search_number (fun captures => captures.get? 1 = some (Nat.toDigits 10 number)) alpha
    letterSpace (begins_letter letter) front_digit
  · exact classes.isDigit_letter alpha
  · intro before
    refine ⟨Dict.assign [] 1 (Nat.toDigits 10 number), ⟨[letter].reverse ++ before, back⟩,
      fun next => ?_, Dict.get?_assign_self _ _ _⟩
    have bounded : Regex.atBoundary classes.word ⟨letter :: before, back⟩ = true := by
      simp [Regex.atBoundary, classes.word_letter letter alpha, separate]
    rw [drop, Regex.run]
    exact (Regex.run_literal [letter] _ before back _).trans (if_pos bounded)

/-- Another letter is not. -/
theorem search_letter_eq_none (letter : Char) (number : Nat) (alpha : letter.isAlpha = true)
    (letterSpace : Text.isSpace letter = false)
    (front_digit : ∀ char ∈ front, classes.isDigit char = false)
    (rest_digit : ∀ char ∈ rest, classes.isDigit char = false)
    (absent : ¬ [letter] <+: rest.dropWhile Text.isSpace) :
    (letterPattern classes letter).search (front ++ (Nat.toDigits 10 number ++ rest)) = none :=
  search_number_eq_none alpha letterSpace (begins_letter letter) front_digit rest_digit
    fun captures _ _ => Regex.run_literal_eq_none absent captures _

/-- Where one number stands, the compact form does not. -/
theorem search_compact_eq_none (number : Nat)
    (front_digit : ∀ char ∈ front, classes.isDigit char = false)
    (rest_digit : ∀ char ∈ rest, classes.isDigit char = false) :
    (compactPattern classes).search (front ++ (Nat.toDigits 10 number ++ rest)) = none := by
  apply search_number_eq_none (by decide : 'm'.isAlpha = true) (by decide) begins_compact
    front_digit rest_digit
  intro captures before next
  apply compact_fails
  intro char member
  exact rest_digit char ((List.dropWhile_suffix Text.isSpace).subset member)

/-- Where no space stands none is passed over. -/
theorem run_spaces {after : List Char} (begin' : pattern.Begins begins)
    (apart : ∀ char, Text.isSpace char → begins char = false)
    (space : after.head?.any Text.isSpace = false) (captures : Regex.Captures)
    (before : List Char) (next : Regex.Captures → Regex.Cursor → Option Regex.Match) :
    (spaces pattern).run captures ⟨before, after⟩ next =
      pattern.run captures ⟨before, after⟩ next := by
  obtain ⟨took, left⟩ := Regex.takeWhile_append_of_head (by simp : ∀ char ∈ [], Text.isSpace char)
    space
  rw [List.nil_append] at took left
  rw [spaces, Regex.run_star_seq begin' apart, took, left]
  rfl

/-- A written number begins with a digit. -/
theorem head_toDigits (rest : List Char) :
    (Nat.toDigits 10 number ++ rest).head?.any Text.isSpace = false := by
  cases digits : Nat.toDigits 10 number with
  | nil => exact absurd digits Nat.toDigits_ne_nil
  | cons first others =>
      have digit : first.isDigit = true :=
        Nat.isDigit_of_mem_toDigits (by omega : 0 < 10) (by omega)
          (digits ▸ List.mem_cons_self : first ∈ Nat.toDigits 10 number)
      have range : 48 ≤ first.toNat ∧ first.toNat ≤ 57 := by
        simpa [Char.isDigit, UInt32.le_iff_toNat_le] using digit
      simp only [List.cons_append, List.head?_cons, Option.any_some, Text.isSpace]
      simp
      omega

/-- The seconds of the compact form. -/
theorem run_compact_seconds {back : List Char} (captures : Regex.Captures) (before : List Char)
    (next : Regex.Captures → Regex.Cursor → Option Regex.Match) :
    (classes.number 2 (spaces (.literal ['s']))).run captures
        ⟨before, Nat.toDigits 10 number ++ 's' :: back⟩ next =
      next (captures.assign 2 (Nat.toDigits 10 number))
        ⟨'s' :: ((Nat.toDigits 10 number).reverse ++ before), back⟩ := by
  have begin' : (Regex.literal ['s']).Begins (· == 's') := Regex.begins_literal 's' []
  have apart : ∀ char, Text.isSpace char → (char == 's') = false := by
    intro char space
    rw [beq_eq_false_iff_ne]
    rintro rfl
    exact absurd space (by decide)
  have ends : ('s' :: back).head?.any classes.isDigit = false :=
    classes.isDigit_letter (by decide : 's'.isAlpha = true)
  calc (classes.number 2 (spaces (.literal ['s']))).run captures
        ⟨before, Nat.toDigits 10 number ++ 's' :: back⟩ next
      = (spaces (.literal ['s'])).run (captures.assign 2 (Nat.toDigits 10 number))
          ⟨(Nat.toDigits 10 number).reverse ++ before, 's' :: back⟩ next :=
        Regex.run_group_plus (begins_spaces begin') (begins_apart (by decide)) Nat.toDigits_ne_nil
          (fun char member => classes.isDigit_toDigits member) ends 2 captures before next
    _ = (Regex.literal ['s']).run (captures.assign 2 (Nat.toDigits 10 number))
          ⟨(Nat.toDigits 10 number).reverse ++ before, 's' :: back⟩ next :=
        run_spaces begin' apart (by simp; decide) _ _ next
    _ = next (captures.assign 2 (Nat.toDigits 10 number))
          ⟨'s' :: ((Nat.toDigits 10 number).reverse ++ before), back⟩ :=
        Regex.run_literal ['s'] _ _ back next

/-- The compact form is found, with both of its numbers. -/
theorem search_compact (number number' : Nat) (back : List Char)
    (front_digit : ∀ char ∈ front, classes.isDigit char = false) :
    ∃ found, (compactPattern classes).search (front ++
        (Nat.toDigits 10 number ++ 'm' :: (Nat.toDigits 10 number' ++ 's' :: back))) =
      some found ∧ found.captures.get? 1 = some (Nat.toDigits 10 number) ∧
        found.captures.get? 2 = some (Nat.toDigits 10 number') := by
  apply search_number (fun captures => captures.get? 1 = some (Nat.toDigits 10 number) ∧
    captures.get? 2 = some (Nat.toDigits 10 number')) (by decide : 'm'.isAlpha = true) (by decide)
    begins_compact front_digit
  · exact classes.isDigit_letter (by decide)
  · intro before
    have drop : ('m' :: (Nat.toDigits 10 number' ++ 's' :: back)).dropWhile Text.isSpace =
        'm' :: (Nat.toDigits 10 number' ++ 's' :: back) :=
      List.dropWhile_cons_of_neg (by decide)
    refine ⟨Dict.assign (Dict.assign [] 1 (Nat.toDigits 10 number)) 2 (Nat.toDigits 10 number'),
      ⟨'s' :: ((Nat.toDigits 10 number').reverse ++ 'm' :: before), back⟩, fun next => ?_, ?_, ?_⟩
    · have begin' : (classes.number 2 (spaces (.literal ['s']))).Begins classes.isDigit :=
        (Regex.begins_one _).seq.group.seq
      rw [drop, Regex.run]
      refine (Regex.run_literal ['m'] _ before _ _).trans ?_
      refine (run_spaces begin' (fun char => classes.isDigit_space) (head_toDigits _) _ _ _).trans
        ?_
      exact run_compact_seconds _ _ next
    · rw [Dict.get?_assign_of_ne _ _ (by decide)]
      exact Dict.get?_assign_self _ _ _
    · exact Dict.get?_assign_self _ _ _

end Patterns

/-! ## What is told is read -/

section Told

variable {classes : CharClasses} {front back : List Char} {bodyText : String}

/-- The duration that stands among text without digits is read. -/
theorem parseLockoutSeconds_of_lower {duration : LockoutDuration}
    (lowered : classes.lower bodyText.toList = front ++ (duration.text ++ back))
    (front_digit : ∀ char ∈ front, classes.isDigit char = false)
    (back_digit : ∀ char ∈ back, classes.isDigit char = false)
    (separate : back.head?.any classes.word = false) :
    parseLockoutSeconds classes bodyText = some duration.total := by
  have rest_digit : ∀ letters : List Char, (∀ char ∈ letters, char.isAlpha ∨ char = ' ') →
      ∀ char ∈ letters ++ back, classes.isDigit char = false := by
    intro letters alpha char member
    rcases List.mem_append.mp member with member | member
    · rcases alpha char member with letter | rfl
      · exact classes.isDigit_letter letter
      · exact classes.isDigit_space (by decide)
    · exact back_digit char member
  have apart : ∀ (letter : Char) (others : List Char), letter.isAlpha = true →
      ¬ letter :: others <+: back := by
    rintro letter others alpha ⟨after, rfl⟩
    have none : classes.word letter = false := separate
    rw [classes.word_letter letter alpha] at none
    cases none
  have minute : "minute".toList = ['m', 'i', 'n', 'u', 't', 'e'] := by decide
  have second : "second".toList = ['s', 'e', 'c', 'o', 'n', 'd'] := by decide
  cases duration with
  | minutes count =>
      have spelled : " minutes".toList = [' ', 'm', 'i', 'n', 'u', 't', 'e', 's'] := by decide
      have plain := rest_digit [' ', 'm', 'i', 'n', 'u', 't', 'e', 's']
        (List.all_iff_forall_prop.mp (by decide))
      have compact := search_compact_eq_none count front_digit plain
      obtain ⟨found, searched, took⟩ := search_unit 'm' ['i', 'n', 'u', 't', 'e'] count (by decide) (by decide)
        front_digit plain ⟨'s' :: back, rfl⟩
      rw [LockoutDuration.text, spelled, List.append_assoc] at lowered
      simp only [parseLockoutSeconds, lowered, minute, compact, searched, groupInt_of_get? took,
        LockoutDuration.total]
  | seconds count =>
      have spelled : " seconds".toList = [' ', 's', 'e', 'c', 'o', 'n', 'd', 's'] := by decide
      have plain := rest_digit [' ', 's', 'e', 'c', 'o', 'n', 'd', 's']
        (List.all_iff_forall_prop.mp (by decide))
      have compact := search_compact_eq_none count front_digit plain
      have noMinute := search_unit_eq_none 'm' ['i', 'n', 'u', 't', 'e'] count (by decide) (by decide) front_digit plain
        (fun starts => absurd (List.cons_prefix_cons.mp starts).1 (by decide))
      obtain ⟨found, searched, took⟩ := search_unit 's' ['e', 'c', 'o', 'n', 'd'] count (by decide) (by decide)
        front_digit plain ⟨'s' :: back, rfl⟩
      rw [LockoutDuration.text, spelled, List.append_assoc] at lowered
      simp only [parseLockoutSeconds, lowered, minute, second, compact, noMinute, searched,
        groupInt_of_get? took, LockoutDuration.total]
  | compact count rest =>
      obtain ⟨found, searched, first, second⟩ := search_compact count rest back front_digit
      rw [LockoutDuration.text, List.append_assoc, List.cons_append, List.append_assoc] at lowered
      simp only [parseLockoutSeconds, lowered, List.singleton_append, searched,
        groupInt_of_get? first, groupInt_of_get? second, LockoutDuration.total]
  | bareMinutes count =>
      have plain := rest_digit ['m']
        (List.all_iff_forall_prop.mp (by decide))
      have compact := search_compact_eq_none count front_digit plain
      have noMinute := search_unit_eq_none 'm' ['i', 'n', 'u', 't', 'e'] count (by decide) (by decide) front_digit plain
        (fun starts => apart 'i' _ (by decide) (List.cons_prefix_cons.mp starts).2)
      have noSecond := search_unit_eq_none 's' ['e', 'c', 'o', 'n', 'd'] count (by decide) (by decide) front_digit plain
        (fun starts => absurd (List.cons_prefix_cons.mp starts).1 (by decide))
      obtain ⟨found, searched, took⟩ := search_letter 'm' count
        (by decide) (by decide) front_digit separate
      rw [LockoutDuration.text, List.append_assoc] at lowered
      rw [List.singleton_append] at compact noMinute noSecond lowered
      simp only [parseLockoutSeconds, lowered, minute, second, compact, noMinute, noSecond,
        searched, groupInt_of_get? took, LockoutDuration.total]
  | bareSeconds count =>
      have plain := rest_digit ['s']
        (List.all_iff_forall_prop.mp (by decide))
      have compact := search_compact_eq_none count front_digit plain
      have noMinute := search_unit_eq_none 'm' ['i', 'n', 'u', 't', 'e'] count (by decide) (by decide) front_digit plain
        (fun starts => absurd (List.cons_prefix_cons.mp starts).1 (by decide))
      have noSecond := search_unit_eq_none 's' ['e', 'c', 'o', 'n', 'd'] count (by decide) (by decide) front_digit plain
        (fun starts => apart 'e' _ (by decide) (List.cons_prefix_cons.mp starts).2)
      have noLetter := search_letter_eq_none 'm' count (by decide)
        (by decide) front_digit plain
        (fun starts => absurd (List.cons_prefix_cons.mp starts).1 (by decide))
      obtain ⟨found, searched, took⟩ := search_letter 's' count
        (by decide) (by decide) front_digit separate
      rw [LockoutDuration.text, List.append_assoc] at lowered
      rw [List.singleton_append] at compact noMinute noSecond noLetter lowered
      simp only [parseLockoutSeconds, lowered, minute, second, compact, noMinute, noSecond,
        noLetter, searched, groupInt_of_get? took, LockoutDuration.total]

/-- Where there is no digit no duration is read. -/
theorem parseLockoutSeconds_of_no_digit
    (plain : ∀ char ∈ bodyText.toList, classes.digit char = none) :
    parseLockoutSeconds classes bodyText = none := by
  have missing : ∀ pattern : Regex,
      (classes.number 1 pattern).search (classes.lower bodyText.toList) = none := fun pattern =>
    Regex.searchFrom_eq_none (Regex.begins_one _).seq.group.seq _ _ (classes.lower_digit plain)
  have compact := missing (spaces (.seq (.literal ['m'])
    (spaces (classes.number 2 (spaces (.literal ['s']))))))
  have minute := missing (spaces (.literal "minute".toList))
  have second := missing (spaces (.literal "second".toList))
  have lastMinute := missing (spaces (.seq (.literal ['m']) (.boundary classes.word)))
  have lastSecond := missing (spaces (.seq (.literal ['s']) (.boundary classes.word)))
  simp only [parseLockoutSeconds, compactPattern, unitPattern, letterPattern, compact, minute,
    second, lastMinute, lastSecond]

/-- The duration a message tells is read. -/
theorem parseLockoutSeconds_told (message : LockoutMessage classes) :
    parseLockoutSeconds classes message.body = some message.duration.total := by
  have lowered : classes.lower message.body.toList = classes.lower message.front ++
      (message.duration.text ++ classes.lower message.back) := by
    rw [LockoutMessage.body, String.toList_ofList, classes.lower_append, classes.lower_append,
      message.spelled]
  exact parseLockoutSeconds_of_lower lowered (classes.lower_digit message.front_digit)
    (classes.lower_digit message.back_digit) (classes.lower_head message.ends_word)

end Told

/-! ## What a login does when it is told -/

/-- Answered by a 403 with this body, a login sleeps once, for so many seconds, raises the 403
and keeps the tokens: it has this run and no other. -/
def BacksOff (classes : CharClasses) (body : String) (seconds : Nat) : Prop :=
  ∀ (s : ClientState) (response : HttpResponse), response.statusCode = 403 →
    response.text = body → ∀ outcome t,
      (Program.Exec ServerAnswers (doLogin classes) s outcome t ∧
          ∃ rest, t.log = s.log ++ ⟨.postLogin, .ok response⟩ :: rest) ↔
        outcome = .error (.api (.generic 403 ("/login: " ++ body))) ∧
          t = { s with log := s.log ++ [⟨.postLogin, .ok response⟩, ⟨.sleep seconds, .ok ()⟩] }

section BackingOff

variable {classes : CharClasses} {body : String}

/-- Operations are only ever added to the log. -/
theorem log_prefix {program : Client Unit} {s t : ClientState} {outcome : Except Error Unit}
    (run : Program.Exec ServerAnswers program s outcome t) : s.log <+: t.log := by
  induction run with
  | ret value s => exact List.prefix_rfl
  | fail error s => exact List.prefix_rfl
  | call answered _ ih =>
      refine List.IsPrefix.trans ?_ ih
      cases answered <;> first | exact List.prefix_append _ _ | exact List.prefix_rfl

/-- A 403 that says the account is locked out ends the login after a sleep. -/
theorem exec_locked_out {s t : ClientState} {response : HttpResponse}
    {outcome : Except Error Unit} (status : response.statusCode = 403)
    (locked : saysLockedOut classes response.text) :
    Program.Exec ServerAnswers (answerLogin classes response) s outcome t ↔
      outcome = .error (.api (.generic 403 ("/login: " ++ response.text))) ∧
        t = { s with log := s.log ++ [⟨.sleep (lockoutBackoff
          (parseLockoutSeconds classes response.text)), .ok ()⟩] } := by
  rw [answerLogin, if_pos ⟨status, locked⟩]
  constructor
  · intro run
    rcases Program.Exec.of_bind run with ⟨_, u, slept, later⟩ | ⟨error, rfl, slept⟩
    · cases slept.of_perform
      cases later
      exact ⟨rfl, rfl⟩
    · cases slept.of_perform
  · rintro ⟨rfl, rfl⟩
    exact .bind (.perform .sleep) (.fail _ _)

/-- A login that is locked out sleeps for what it reads of the body. -/
theorem backsOff_of_locked_out (locked : saysLockedOut classes body) :
    BacksOff classes body (lockoutBackoff (parseLockoutSeconds classes body)) := by
  rintro s response status rfl outcome t
  constructor
  · rintro ⟨run, rest, log⟩
    rcases Program.Exec.of_bind run with ⟨given, u, first, later⟩ | ⟨error, same, first⟩
    · -- the log tells which response was the answer
      have grows := log_prefix later
      cases first.of_perform
      obtain ⟨more, more_eq⟩ := grows
      have same : given = response := by
        rw [log, List.append_assoc, List.append_cancel_left_eq] at more_eq
        injection more_eq with head
        simpa using head
      subst same
      obtain ⟨raised, rfl⟩ := (exec_locked_out status locked).mp later
      refine ⟨raised, ?_⟩
      rw [List.append_assoc]
      rfl
    · cases first.of_perform
      simp at log
  · rintro ⟨rfl, rfl⟩
    have answered : ServerAnswers s .postLogin (.ok response)
        { s with log := s.log ++ [⟨.postLogin, .ok response⟩] } := by
      refine .login (fun error failed => by cases failed) ?_
      intro other same below
      cases same
      omega
    refine ⟨.bind (.perform answered) ((exec_locked_out status locked).mpr ⟨rfl, ?_⟩), _, rfl⟩
    rw [List.append_assoc]
    rfl

/-- How long a login sleeps is one thing. -/
theorem BacksOff.unique {seconds seconds' : Nat} (first : BacksOff classes body seconds)
    (second : BacksOff classes body seconds') : seconds = seconds' := by
  have run := (first ⟨none, none, []⟩ ⟨403, body, "", none, none⟩ rfl rfl _ _).mpr ⟨rfl, rfl⟩
  have same := ((second ⟨none, none, []⟩ ⟨403, body, "", none, none⟩ rfl rfl _ _).mp run).2
  simpa using same

private theorem lockoutBackoff_some_iff {seconds : Nat} :
    lockoutBackoff (some seconds) = min (seconds + 5) 150 ↔ seconds ≠ 0 := by
  cases seconds with
  | zero => decide
  | succ more => exact iff_of_true rfl (Nat.succ_ne_zero more)

/-- A login backs off for the lockout it was told exactly when that is not one of no seconds;
told none, it waits for 130 seconds. -/
theorem lockout_respected_iff (classes : CharClasses) :
    (∀ message : LockoutMessage classes,
      (parseLockoutSeconds classes message.body = some message.duration.total ∧
        BacksOff classes message.body (min (message.duration.total + 5) 150)) ↔
          message.duration.total ≠ 0) ∧
    ∀ body : String, saysLockedOut classes body →
      (∀ char ∈ body.toList, classes.digit char = none) → BacksOff classes body 130 := by
  constructor
  · intro message
    have told := parseLockoutSeconds_told message
    have waits := backsOff_of_locked_out message.locked_out
    rw [← LockoutMessage.body, told] at waits
    rw [← lockoutBackoff_some_iff]
    constructor
    · rintro ⟨_, respected⟩
      exact waits.unique respected
    · intro same
      exact ⟨told, same ▸ waits⟩
  · intro body locked plain
    have waits := backsOff_of_locked_out locked
    rwa [parseLockoutSeconds_of_no_digit plain] at waits

/-- "Account locked out for 0 seconds." -/
def lockedForNothing : LockoutMessage asciiClasses where
  duration := .seconds 0
  front := "Account locked out for ".toList
  told := "0 seconds".toList
  back := ['.']
  spelled := by decide
  front_digit := List.all_iff_forall_prop.mp (by decide)
  back_digit := List.all_iff_forall_prop.mp (by decide)
  begins_word := by decide
  ends_word := by decide
  locked_out := by decide

/-- A lockout of no seconds is waited for as if nothing had been told: 130 seconds, not 5. -/
theorem lockout_of_nothing_not_respected :
    parseLockoutSeconds asciiClasses lockedForNothing.body = some 0 ∧
      BacksOff asciiClasses lockedForNothing.body 130 ∧
        ¬ BacksOff asciiClasses lockedForNothing.body
          (min (lockedForNothing.duration.total + 5) 150) := by
  have told := parseLockoutSeconds_told lockedForNothing
  have waits := backsOff_of_locked_out lockedForNothing.locked_out
  rw [← LockoutMessage.body, told] at waits
  exact ⟨told, waits, fun respected => absurd (waits.unique respected) (by decide)⟩

end BackingOff

end WekaShareDriver
