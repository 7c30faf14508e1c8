import WekaShareDriver.Requests
import WekaShareDriver.Foundation.Regex

/-! # The request loop of the API client

A request is sent with the stored access token; a 401 refreshes the token or logs in again
and sends it once more. What fails for good is raised, and what may pass is tried again after
a growing delay. A login that is locked out waits for about as long as it was told.

The server answers what it wants: a response of any status, a lost connection or a timeout
(`WekaShareDriver.ServerAnswers`).
-/

namespace WekaShareDriver

open Foundation

/-- What the Unicode database says of a character: the value of a decimal digit, whether it is
of a word, and its small letters. The two small sigmas, of which the place in a word chooses
one, are taken as one: both are letters. -/
structure CharClasses where
  digit : Char → Option Nat
  word : Char → Bool
  small : Char → List Char
  digit_ascii : ∀ char, char.isDigit = true → digit char = some (char.toNat - '0'.toNat)
  digit_letter : ∀ char, char.isAlpha = true → digit char = none
  digit_space : ∀ char, Text.isSpace char = true → digit char = none
  word_letter : ∀ char, char.isAlpha = true → word char = true
  small_ascii : ∀ char, char.toNat < 128 → small char = [char.toLower]
  small_ne_nil : ∀ char, small char ≠ []
  small_digit : ∀ char, digit char = none → ∀ other ∈ small char, digit other = none
  small_word : ∀ char, word char = false → ∀ other ∈ small char, word other = false

namespace CharClasses

variable (classes : CharClasses)

/-- `text.lower()` -/
def lower (text : List Char) : List Char := text.flatMap classes.small

/-- `\d` -/
def isDigit (char : Char) : Bool := (classes.digit char).isSome

/-- `int(text)` of decimal digits. -/
def int (digits : List Char) : Nat :=
  digits.foldl (fun value char => 10 * value + (classes.digit char).getD 0) 0

/-- `(\d+)` as a group. -/
def number (name : Nat) (rest : Regex) : Regex :=
  .seq (.group name (.plus classes.isDigit)) rest

/-- `int(m.group(name))` -/
def groupInt (found : Regex.Match) (name : Nat) : Nat :=
  classes.int ((found.captures.get? name).getD [])

end CharClasses

/-- The classes and small letters of ASCII; no other character is of a word. -/
def asciiClasses : CharClasses where
  digit char := if char.isDigit then some (char.toNat - '0'.toNat) else none
  word char := char.isAlpha || char.isDigit || char == '_'
  small char := [char.toLower]
  digit_ascii := fun _ digit => if_pos digit
  digit_letter := fun _ letter => if_neg (Text.not_isDigit_of_isAlpha letter)
  digit_space := fun _ space => if_neg (Text.not_isDigit_of_isSpace space)
  word_letter := fun _ letter => by simp [letter]
  small_ascii := fun _ _ => rfl
  small_ne_nil := fun _ => List.cons_ne_nil _ _
  small_digit := by
    intro char none other member
    rw [List.mem_singleton.mp member]
    rcases Text.toLower_eq_or char with same | ⟨_, letter⟩
    · rwa [same]
    · exact if_neg (Text.not_isDigit_of_isAlpha letter)
  small_word := by
    intro char apart other member
    rw [List.mem_singleton.mp member]
    rcases Text.toLower_eq_or char with same | ⟨letter, _⟩
    · rwa [same]
    · simp [letter] at apart

/-- `\s*` -/
def spaces (rest : Regex) : Regex := .seq (.star true Text.isSpace) rest

/-- `(\d+)\s*m\s*(\d+)\s*s` -/
def compactPattern (classes : CharClasses) : Regex :=
  classes.number 1 (spaces (.seq (.literal ['m'])
    (spaces (classes.number 2 (spaces (.literal ['s']))))))

/-- `(\d+)\s*minute` and `(\d+)\s*second` -/
def unitPattern (classes : CharClasses) (unit : List Char) : Regex :=
  classes.number 1 (spaces (.literal unit))

/-- `(\d+)\s*m\b` and `(\d+)\s*s\b` -/
def letterPattern (classes : CharClasses) (letter : Char) : Regex :=
  classes.number 1 (spaces (.seq (.literal [letter]) (.boundary classes.word)))

/-- Parse a lockout duration in seconds from the body of a 403. -/
def parseLockoutSeconds (classes : CharClasses) (bodyText : String) : Option Nat :=
  let low := classes.lower bodyText.toList
  match (compactPattern classes).search low with
  | some found => some (classes.groupInt found 1 * 60 + classes.groupInt found 2)
  | none =>
  match (unitPattern classes "minute".toList).search low with
  | some found => some (classes.groupInt found 1 * 60)
  | none =>
  match (unitPattern classes "second".toList).search low with
  | some found => some (classes.groupInt found 1)
  | none =>
  match (letterPattern classes 'm').search low with
  | some found => some (classes.groupInt found 1 * 60)
  | none =>
  match (letterPattern classes 's').search low with
  | some found => some (classes.groupInt found 1)
  | none => none

/-- A response of the server: its status and text, the message of its body and the tokens in
it. The refresh token may be absent, or there and null. -/
structure HttpResponse where
  statusCode : Nat
  text : String
  message : String
  accessToken : Option String
  refreshToken : Option (Option String)
  deriving DecidableEq, Repr

/-- The operations of the client: requests to the server, the stored tokens and the clock. -/
inductive ClientOp where
  | request (method path : String) (accessToken : Option String)
  | postLogin
  | postRefresh (refreshToken : String)
  | getAccessToken
  | getRefreshToken
  | setAccessToken (token : Option String)
  | setRefreshToken (token : Option String)
  | sleep (seconds : Nat)
  deriving DecidableEq, Repr

@[reducible] def ClientOp.Res : ClientOp → Type
  | .request .. => HttpResponse
  | .postLogin => HttpResponse
  | .postRefresh _ => HttpResponse
  | .getAccessToken => Option String
  | .getRefreshToken => Option String
  | _ => Unit

/-- A program of the client. -/
abbrev Client (α : Type) : Type := Program ClientOp ClientOp.Res Error α

/-- Perform an operation of the client. -/
def onServer (op : ClientOp) : Client op.Res := Program.perform op

/-- A message that says the capacity is exhausted. -/
def isCapacityError (message : String) : Bool :=
  Text.contains (Text.lower message) "capacity" &&
    (Text.contains (Text.lower message) "not enough" ||
      Text.contains (Text.lower message) "insufficient" ||
      Text.contains (Text.lower message) "no space")

/-- The exception an error response is translated into. -/
def responseError (response : HttpResponse) (context : String) : Option Error :=
  let message := if context = "" then response.message else context ++ ": " ++ response.message
  if response.statusCode < 400 then none
  else if response.statusCode = 401 then some (.api (.auth message))
  else if response.statusCode = 404 then some (.api (.notFound message))
  else if response.statusCode = 409 then some (.api (.conflict message))
  else if response.statusCode = 429 then some (.api (.rateLimited message))
  else if response.statusCode = 400 ∧ isCapacityError message then some (.capacity message)
  else some (.api (.generic response.statusCode message))

/-- Translate error responses into exceptions. -/
def raiseForStatus (response : HttpResponse) (context : String) : Client Unit :=
  match responseError response context with
  | none => pure ()
  | some error => throw error

/-- A body that says the account is locked out: `'locked out' in body_text.lower()`. -/
def saysLockedOut (classes : CharClasses) (bodyText : String) : Bool :=
  decide ("locked out".toList <:+: classes.lower bodyText.toList)

/-- How long a locked-out login waits: 125 seconds clear a typical lockout. -/
def lockoutBackoff (duration : Option Nat) : Nat :=
  min ((match duration with
    | none => 125
    | some 0 => 125
    | some seconds => seconds) + 5) 150

/-- What follows the answer to a login: a lockout is backed off from before its error is
raised, and the tokens of an accepted one are stored. -/
def answerLogin (classes : CharClasses) (response : HttpResponse) : Client Unit :=
  if response.statusCode = 403 ∧ saysLockedOut classes response.text then do
    onServer (.sleep (lockoutBackoff (parseLockoutSeconds classes response.text)))
    throw (.api (.generic 403 ("/login: " ++ response.text)))
  else do
    raiseForStatus response "/login"
    match response.accessToken with
    | none => throw (.value "access_token")
    | some token =>
        onServer (.setAccessToken (some token))
        onServer (.setRefreshToken (response.refreshToken.getD none))

/-- Log in, backing off through a lockout. -/
def doLogin (classes : CharClasses) : Client Unit := do
  let response ← onServer .postLogin
  answerLogin classes response

/-- Exchange a refresh token for a new access token: whether the server gave one. -/
def refreshTokens (refreshToken : String) : Client Bool := do
  let response ← onServer (.postRefresh refreshToken)
  if response.statusCode = 200 then
    match response.accessToken with
    | none => throw (.value "access_token")
    | some token =>
        onServer (.setAccessToken (some token))
        match response.refreshToken with
        | none => return true
        | some token =>
            onServer (.setRefreshToken token)
            return true
  else
    return false

/-- Refresh the access token, or say that it failed, whatever went wrong. -/
def tryRefresh (refreshToken : String) : Client Bool :=
  tryCatch (refreshTokens refreshToken) fun _ => pure false

/-- Refresh the access token, falling back to a full login. -/
def refreshOrLogin (classes : CharClasses) : Client Unit := do
  match (← onServer .getRefreshToken).filter (· ≠ "") with
  | none => doLogin classes
  | some refreshToken =>
      if !(← tryRefresh refreshToken) then
        doLogin classes

/-- Send a request with the stored access token. -/
def sendRequest (method path : String) : Client HttpResponse := do
  let token ← onServer .getAccessToken
  onServer (.request method path token)

/-- One attempt of a request: a 401 renews the token and sends it again. -/
def attemptRequest (classes : CharClasses) (method path : String) : Client HttpResponse := do
  let first ← sendRequest method path
  let response ←
    if first.statusCode = 401 then do
      refreshOrLogin classes
      sendRequest method path
    else pure first
  raiseForStatus response path
  return response

/-- The attempts of a request, with the delay before the next one. -/
def requestLoop (classes : CharClasses) (method path : String) : Nat → Nat → Client HttpResponse
  | _, 0 => attemptRequest classes method path
  | delay, retries + 1 =>
      tryCatch (attemptRequest classes method path) fun error =>
        if isTransient error then do
          onServer (.sleep delay)
          requestLoop classes method path (2 * delay) retries
        else throw error

/-- Authenticated request: refresh on 401, back off on what may pass. -/
def request (classes : CharClasses) (method path : String) (maxRetries : Nat) :
    Client HttpResponse := requestLoop classes method path 1 maxRetries

/-! ## The server -/

/-- The stored tokens, and every operation so far with its answer. -/
structure ClientState where
  accessToken : Option String
  refreshToken : Option String
  log : List ((op : ClientOp) × Except Error op.Res)

/-- What the server may answer to an exchange: any response, a lost connection or a timeout. -/
def ExchangeAnswers (answer : Except Error HttpResponse) : Prop :=
  ∀ error, answer = .error error → error = .connection ∨ error = .timeout

/-- What may be answered to an operation, and the tokens afterwards. A login below 400 carries
an access token. -/
inductive ServerAnswers :
    ClientState → (op : ClientOp) → Except Error op.Res → ClientState → Prop where
  | request {state : ClientState} {method path : String} {token : Option String}
      {answer : Except Error HttpResponse} : ExchangeAnswers answer →
      ServerAnswers state (.request method path token) answer
        { state with log := state.log ++ [⟨.request method path token, answer⟩] }
  | login {state : ClientState} {answer : Except Error HttpResponse} : ExchangeAnswers answer →
      (∀ response, answer = .ok response → response.statusCode < 400 →
        response.accessToken ≠ none) →
      ServerAnswers state .postLogin answer
        { state with log := state.log ++ [⟨.postLogin, answer⟩] }
  | refresh {state : ClientState} {refreshToken : String} {answer : Except Error HttpResponse} :
      ExchangeAnswers answer →
      ServerAnswers state (.postRefresh refreshToken) answer
        { state with log := state.log ++ [⟨.postRefresh refreshToken, answer⟩] }
  | getAccess {state : ClientState} :
      ServerAnswers state .getAccessToken (.ok state.accessToken) state
  | getRefresh {state : ClientState} :
      ServerAnswers state .getRefreshToken (.ok state.refreshToken) state
  | setAccess {state : ClientState} {token : Option String} :
      ServerAnswers state (.setAccessToken token) (.ok ()) { state with accessToken := token }
  | setRefresh {state : ClientState} {token : Option String} :
      ServerAnswers state (.setRefreshToken token) (.ok ()) { state with refreshToken := token }
  | sleep {state : ClientState} {seconds : Nat} :
      ServerAnswers state (.sleep seconds) (.ok ())
        { state with log := state.log ++ [⟨.sleep seconds, .ok ()⟩] }

end WekaShareDriver
