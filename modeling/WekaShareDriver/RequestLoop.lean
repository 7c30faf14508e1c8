import Mathlib.Algebra.Group.Nat.Defs
import WekaShareDriver.Lockout

/-! # What the request loop promises

A run of the loop is a list of attempts with growing pauses between them. An attempt is
decided by one answer: that of the request, sent once or, after a 401 and a renewed token, a
second time; or that of the login the renewal needed. `WekaShareDriver.Attempt` says which
exchanges an attempt makes and `WekaShareDriver.request_contract` how many attempts there are,
how long the pauses and what the run ends with, whatever the server answers.
-/

namespace WekaShareDriver

open Foundation

/-- An operation and its answer. -/
abbrev ClientEvent : Type := (op : ClientOp) × Except Error op.Res

/-- An exchange that was answered, or lost. -/
abbrev Exchange : Type := Except Error HttpResponse

/-- The exception that belongs to an error status: a bad request is about capacity if its message
says so. -/
def Matches (response : HttpResponse) : Error → Prop
  | .api error =>
      error.statusCode = some response.statusCode ∧
        (error.kind = .auth ↔ response.statusCode = 401) ∧
        (error.kind = .notFound ↔ response.statusCode = 404) ∧
        (error.kind = .conflict ↔ response.statusCode = 409) ∧
        (error.kind = .rateLimited ↔ response.statusCode = 429) ∧
        (response.statusCode = 400 → isCapacityError error.reason = false)
  | .capacity reason => response.statusCode = 400 ∧ isCapacityError reason = true
  | _ => False

/-- An answer that may not be the last word: too many requests, an error of the server, or no
answer at all. -/
def MayPass : Exchange → Prop
  | .ok response => response.statusCode = 429 ∨ 500 ≤ response.statusCode
  | .error _ => True

/-- What an answer decides: it is raised if it is an error or has an error status. -/
def Decides {α : Type} (accepted : HttpResponse → Except Error α → Prop) :
    Exchange → Except Error α → Prop
  | .ok response, outcome =>
      if response.statusCode < 400 then accepted response outcome
      else ∃ error, outcome = .error error ∧ Matches response error
  | .error error, outcome => outcome = .error error ∧ (error = .connection ∨ error = .timeout)

/-! ## The exchanges of an attempt -/

/-- A login: its exchange and, if it is locked out, one sleep. -/
inductive LoginEvents : List ClientEvent → Exchange → Prop where
  | plain {answer : Exchange} : LoginEvents [⟨.postLogin, answer⟩] answer
  | lockedOut {response : HttpResponse} {seconds : Nat} : response.statusCode = 403 →
      LoginEvents [⟨.postLogin, .ok response⟩, ⟨.sleep seconds, .ok ()⟩] (.ok response)

/-- The renewal of the token: a refresh that succeeds, or a login after one that does not or
where there is nothing to refresh with. -/
inductive RenewalEvents : List ClientEvent → Exchange → Prop where
  | refreshed {token : String} {response : HttpResponse} : response.statusCode = 200 →
      RenewalEvents [⟨.postRefresh token, .ok response⟩] (.ok response)
  | refused {token : String} {answer answer' : Exchange} {events : List ClientEvent} :
      LoginEvents events answer' →
      RenewalEvents (⟨.postRefresh token, answer⟩ :: events) answer'
  | login {events : List ClientEvent} {answer : Exchange} :
      LoginEvents events answer → RenewalEvents events answer

/-- An attempt, the answer that decides it and its outcome. The request is sent once, or twice
when it was answered by a 401 and the token was renewed. -/
inductive Attempt (method path : String) :
    List ClientEvent → Exchange → Except Error HttpResponse → Prop where
  | once {token : Option String} {answer : Exchange} {outcome : Except Error HttpResponse} :
      (∀ response, answer = .ok response → response.statusCode ≠ 401) →
      Decides (fun response outcome => outcome = .ok response) answer outcome →
      Attempt method path [⟨.request method path token, answer⟩] answer outcome
  | notRenewed {token : Option String} {response : HttpResponse} {events : List ClientEvent}
      {answer : Exchange} {error : Error} : response.statusCode = 401 →
      RenewalEvents events answer →
      Decides (α := HttpResponse) (fun _ _ => False) answer (.error error) →
      Attempt method path (⟨.request method path token, .ok response⟩ :: events) answer
        (.error error)
  | twice {token token' : Option String} {response renewed : HttpResponse}
      {events : List ClientEvent} {answer : Exchange} {outcome : Except Error HttpResponse} :
      response.statusCode = 401 → RenewalEvents events (.ok renewed) →
      renewed.statusCode < 400 →
      Decides (fun response outcome => outcome = .ok response) answer outcome →
      Attempt method path (⟨.request method path token, .ok response⟩ ::
        (events ++ [⟨.request method path token', answer⟩])) answer outcome

/-! ## Errors of responses -/

/-- A response below 400 is no error. -/
theorem responseError_of_lt {response : HttpResponse} {context : String}
    (below : response.statusCode < 400) : responseError response context = none := by
  simp [responseError, below]

/-- An error status raises the exception that belongs to it. -/
theorem matches_responseError {response : HttpResponse} (context : String)
    (above : ¬ response.statusCode < 400) :
    ∃ error, responseError response context = some error ∧ Matches response error := by
  simp only [responseError, if_neg above]
  split_ifs with auth notFound conflict limited capacity
  all_goals refine ⟨_, rfl, ?_⟩
  all_goals simp_all [Matches, WekaApiError.auth, WekaApiError.notFound, WekaApiError.conflict,
    WekaApiError.rateLimited, WekaApiError.generic]

/-- The loop tries again exactly after what may pass. -/
theorem isTransient_iff_of_matches {response : HttpResponse} {error : Error}
    (above : ¬ response.statusCode < 400) (matching : Matches response error) :
    isTransient error = true ↔ MayPass (.ok response) := by
  cases error with
  | api error =>
      obtain ⟨status, _, _, _, limited, _⟩ := matching
      simp only [isTransient, MayPass, status, Bool.or_eq_true, beq_iff_eq, limited,
        decide_eq_true_eq]
      omega
  | capacity reason =>
      have bad : response.statusCode = 400 := matching.1
      simp [isTransient, MayPass, bad]
  | _ => exact matching.elim

/-- An exchange decides as it should whatever the exception is called in the code. -/
theorem decides_transient {α : Type} {accepted : HttpResponse → Except Error α → Prop}
    {answer : Exchange} {error : Error} (decided : Decides accepted answer (.error error))
    (refuses : ∀ response, ¬ accepted response (.error error)) :
    isTransient error = true ↔ MayPass answer := by
  cases answer with
  | ok response =>
      rw [Decides] at decided
      split at decided
      case isTrue below => exact absurd decided (refuses response)
      case isFalse above =>
        obtain ⟨_, same, matching⟩ := decided
        cases same
        exact isTransient_iff_of_matches above matching
  | error _ =>
      obtain ⟨same, lost⟩ := decided
      cases same
      rcases lost with rfl | rfl <;> simp [isTransient, MayPass]

section Decided

variable {α β : Type} {accepted : HttpResponse → Except Error α → Prop} {answer : Exchange}

/-- Only a response below 400 is accepted. -/
theorem Decides.of_ok {value : α} (decided : Decides accepted answer (.ok value)) :
    ∃ response, answer = .ok response ∧ response.statusCode < 400 ∧
      accepted response (.ok value) := by
  cases answer with
  | ok response =>
      rw [Decides] at decided
      split at decided
      case isTrue below => exact ⟨response, rfl, below, decided⟩
      case isFalse above =>
        obtain ⟨_, same, _⟩ := decided
        cases same
  | error error => cases decided.1

/-- An error decided by an answer is the same wherever it is raised. -/
theorem Decides.of_error {error : Error} (decided : Decides accepted answer (.error error))
    (refuses : ∀ response, ¬ accepted response (.error error))
    {accepted' : HttpResponse → Except Error β → Prop} :
    Decides accepted' answer (.error error) := by
  cases answer with
  | ok response =>
      rw [Decides] at decided ⊢
      split at decided
      case isTrue below => exact absurd decided (refuses response)
      case isFalse above =>
        obtain ⟨_, same, matching⟩ := decided
        cases same
        exact (if_neg above).mpr ⟨error, rfl, matching⟩
  | error _ =>
      obtain ⟨same, lost⟩ := decided
      cases same
      exact ⟨rfl, lost⟩

end Decided

/-! ## Runs of the parts -/

section Parts

variable {classes : CharClasses} {method path : String} {s t : ClientState}

private theorem exec_raiseForStatus {response : HttpResponse} {context : String}
    {outcome : Except Error Unit}
    (run : Program.Exec ServerAnswers (raiseForStatus response context) s outcome t) :
    t = s ∧ Decides (fun _ outcome => outcome = .ok ()) (.ok response) outcome := by
  by_cases below : response.statusCode < 400
  · rw [raiseForStatus, responseError_of_lt below] at run
    cases run
    exact ⟨rfl, (if_pos below).mpr rfl⟩
  · obtain ⟨error, raised, matching⟩ := matches_responseError context below
    rw [raiseForStatus, raised] at run
    cases run
    exact ⟨rfl, (if_neg below).mpr ⟨error, rfl, matching⟩⟩

/-- Storing the tokens of an accepted login succeeds. -/
theorem exec_setTokens {token : String} {refresh : Option String} {outcome : Except Error Unit}
    (run : Program.Exec ServerAnswers (do
      onServer (.setAccessToken (some token))
      onServer (.setRefreshToken refresh)) s outcome t) : outcome = .ok () ∧ t.log = s.log := by
  rcases Program.Exec.of_bind run with ⟨_, u, first, later⟩ | ⟨error, rfl, first⟩
  · cases first.of_perform
    cases Program.Exec.of_perform later
    exact ⟨rfl, rfl⟩
  · cases first.of_perform

/-- A login is one exchange, which decides it. -/
theorem exec_doLogin {outcome : Except Error Unit}
    (run : Program.Exec ServerAnswers (doLogin classes) s outcome t) :
    ∃ events answer, t.log = s.log ++ events ∧ LoginEvents events answer ∧
      Decides (fun _ outcome => outcome = .ok ()) answer outcome := by
  rcases Program.Exec.of_bind run with ⟨response, u, first, later⟩ | ⟨error, rfl, first⟩
  · cases first.of_perform with
    | login _ carries =>
        by_cases locked : response.statusCode = 403 ∧ saysLockedOut classes response.text
        · obtain ⟨rfl, rfl⟩ := (exec_locked_out locked.1 locked.2).mp later
          refine ⟨_, .ok response, List.append_assoc _ _ _, .lockedOut locked.1, ?_⟩
          have above : ¬ response.statusCode < 400 := by omega
          refine (if_neg above).mpr ⟨_, rfl, ?_⟩
          simp [Matches, WekaApiError.generic, locked.1]
        · rw [answerLogin, if_neg locked] at later
          rcases Program.Exec.of_bind later with ⟨_, v, checked, rest⟩ | ⟨error, rfl, checked⟩
          · obtain ⟨rfl, decided⟩ := exec_raiseForStatus checked
            have below : response.statusCode < 400 := by
              by_contra above
              obtain ⟨_, raised, _⟩ := (if_neg above).mp decided
              cases raised
            cases token : response.accessToken with
            | none => exact absurd token (carries response rfl below)
            | some given =>
                rw [token] at rest
                obtain ⟨rfl, same⟩ := exec_setTokens rest
                exact ⟨_, _, same, .plain, (if_pos below).mpr rfl⟩
          · obtain ⟨rfl, decided⟩ := exec_raiseForStatus checked
            exact ⟨_, _, rfl, .plain, decided⟩
  · cases first.of_perform with
    | login exchange _ => exact ⟨_, _, rfl, .plain, rfl, exchange error rfl⟩

/-- A refresh is one exchange, and succeeds only on a 200. -/
theorem exec_refreshTokens {token : String} {outcome : Except Error Bool}
    (run : Program.Exec ServerAnswers (refreshTokens token) s outcome t) :
    ∃ answer, t.log = s.log ++ [⟨.postRefresh token, answer⟩] ∧
      (outcome = .ok true → ∃ response, answer = .ok response ∧ response.statusCode = 200) := by
  rcases Program.Exec.of_bind run with ⟨response, u, first, later⟩ | ⟨error, rfl, first⟩
  · cases first.of_perform
    by_cases good : response.statusCode = 200
    · refine ⟨.ok response, ?_, fun _ => ⟨response, rfl, good⟩⟩
      rw [if_pos good] at later
      cases given : response.accessToken with
      | none =>
          rw [given] at later
          cases later
          rfl
      | some access =>
          rw [given] at later
          rcases Program.Exec.of_bind later with ⟨_, v, stored, rest⟩ | ⟨error, rfl, stored⟩
          · cases stored.of_perform
            cases refresh : response.refreshToken with
            | none =>
                rw [refresh] at rest
                cases rest
                rfl
            | some next =>
                rw [refresh] at rest
                rcases Program.Exec.of_bind rest with ⟨_, w, kept, ends⟩ | ⟨error, rfl, kept⟩
                · cases kept.of_perform
                  cases ends
                  rfl
                · cases kept.of_perform
          · cases stored.of_perform
    · rw [if_neg good] at later
      cases later
      exact ⟨_, rfl, fun succeeds => by cases succeeds⟩
  · cases first.of_perform
    exact ⟨_, rfl, fun succeeds => by cases succeeds⟩

/-- Nothing a refresh raises is let through. -/
theorem exec_tryRefresh {token : String} {outcome : Except Error Bool}
    (run : Program.Exec ServerAnswers (tryRefresh token) s outcome t) :
    ∃ renewed answer, outcome = .ok renewed ∧
      t.log = s.log ++ [⟨.postRefresh token, answer⟩] ∧
        (renewed = true → ∃ response, answer = .ok response ∧ response.statusCode = 200) := by
  rcases Program.Exec.of_tryCatch run with ⟨renewed, rfl, inner⟩ | ⟨error, u, inner, later⟩
  · obtain ⟨answer, log, good⟩ := exec_refreshTokens inner
    exact ⟨renewed, answer, rfl, log, fun succeeds => good (by rw [succeeds])⟩
  · obtain ⟨answer, log, _⟩ := exec_refreshTokens inner
    cases later
    exact ⟨false, answer, rfl, log, fun succeeds => by cases succeeds⟩

/-- A renewal ends with the exchange that decides it: of a refresh that succeeded or of the
login. -/
theorem exec_refreshOrLogin {outcome : Except Error Unit}
    (run : Program.Exec ServerAnswers (refreshOrLogin classes) s outcome t) :
    ∃ events answer, t.log = s.log ++ events ∧ RenewalEvents events answer ∧
      Decides (fun _ outcome => outcome = .ok ()) answer outcome := by
  rcases Program.Exec.of_bind run with ⟨stored, u, first, later⟩ | ⟨error, rfl, first⟩
  · cases first.of_perform
    cases held : s.refreshToken.filter (· ≠ "") with
    | none =>
        rw [held] at later
        obtain ⟨events, answer, log, login, decided⟩ := exec_doLogin later
        exact ⟨events, answer, log, .login login, decided⟩
    | some token =>
        rw [held] at later
        rcases Program.Exec.of_bind later with ⟨renewed, v, tried, rest⟩ | ⟨error, rfl, tried⟩
        · obtain ⟨_, answer, same, log, good⟩ := exec_tryRefresh tried
          cases same
          cases renewed with
          | true =>
              obtain ⟨response, rfl, status⟩ := good rfl
              cases rest
              have below : response.statusCode < 400 := by omega
              exact ⟨_, _, log, .refreshed status, (if_pos below).mpr rfl⟩
          | false =>
              obtain ⟨events, answer', log', login, decided⟩ := exec_doLogin rest
              refine ⟨⟨.postRefresh token, answer⟩ :: events, answer', ?_, .refused login, decided⟩
              rw [log', log, List.append_assoc]
              rfl
        · obtain ⟨_, _, same, _⟩ := exec_tryRefresh tried
          cases same
  · cases first.of_perform

/-- A request sent is one exchange. -/
theorem exec_sendRequest {answer : Exchange}
    (run : Program.Exec ServerAnswers (sendRequest method path) s answer t) :
    ∃ token, t.log = s.log ++ [⟨.request method path token, answer⟩] ∧
      ∀ error, answer = .error error → error = .connection ∨ error = .timeout := by
  rcases Program.Exec.of_bind run with ⟨token, u, first, later⟩ | ⟨error, rfl, first⟩
  · cases first.of_perform
    cases Program.Exec.of_perform later with
    | request exchange => exact ⟨_, rfl, exchange⟩
  · cases first.of_perform

/-- The response that is checked last is returned or its error raised. -/
theorem exec_check {response : HttpResponse} {outcome : Except Error HttpResponse}
    (run : Program.Exec ServerAnswers (do
      raiseForStatus response path
      return response) s outcome t) :
    t = s ∧ Decides (fun response outcome => outcome = .ok response) (.ok response) outcome := by
  rcases Program.Exec.of_bind run with ⟨_, u, checked, rest⟩ | ⟨error, rfl, checked⟩
  · obtain ⟨rfl, decided⟩ := exec_raiseForStatus checked
    cases rest
    have below : response.statusCode < 400 := by
      by_contra above
      obtain ⟨_, raised, _⟩ := (if_neg above).mp decided
      cases raised
    exact ⟨rfl, (if_pos below).mpr rfl⟩
  · obtain ⟨rfl, decided⟩ := exec_raiseForStatus checked
    have above : ¬ response.statusCode < 400 := by
      intro below
      cases (if_pos below).mp decided
    obtain ⟨_, same, matching⟩ := (if_neg above).mp decided
    cases same
    exact ⟨rfl, (if_neg above).mpr ⟨error, rfl, matching⟩⟩

/-- A run of an attempt is one. -/
theorem exec_attemptRequest {outcome : Except Error HttpResponse}
    (run : Program.Exec ServerAnswers (attemptRequest classes method path) s outcome t) :
    ∃ events answer, t.log = s.log ++ events ∧ Attempt method path events answer outcome := by
  rcases Program.Exec.of_bind run with ⟨first, u, sent, later⟩ | ⟨error, rfl, sent⟩
  · obtain ⟨token, log, _⟩ := exec_sendRequest sent
    by_cases expired : first.statusCode = 401
    · rw [if_pos expired] at later
      rcases Program.Exec.of_bind later with ⟨_, v, renewed, rest⟩ | ⟨error, rfl, refused⟩
      · obtain ⟨events, answer, log', renewal, decided⟩ := exec_refreshOrLogin renewed
        obtain ⟨response, rfl, below, _⟩ := decided.of_ok
        rcases Program.Exec.of_bind rest with ⟨second, w, resent, checked⟩ | ⟨error, rfl, resent⟩
        · obtain ⟨token', log'', _⟩ := exec_sendRequest resent
          obtain ⟨rfl, final⟩ := exec_check checked
          refine ⟨⟨.request method path token, .ok first⟩ ::
            (events ++ [⟨.request method path token', .ok second⟩]), .ok second, ?_,
            .twice expired renewal below final⟩
          rw [log'', log', log, List.append_assoc, List.append_assoc]
          rfl
        · obtain ⟨token', log'', lost⟩ := exec_sendRequest resent
          have final : Decides (fun response outcome => outcome = .ok response) (.error error)
              (.error error : Except Error HttpResponse) := ⟨rfl, lost error rfl⟩
          refine ⟨⟨.request method path token, .ok first⟩ ::
            (events ++ [⟨.request method path token', .error error⟩]), .error error, ?_,
            .twice expired renewal below final⟩
          rw [log'', log', log, List.append_assoc, List.append_assoc]
          rfl
      · obtain ⟨events, answer, log', renewal, decided⟩ := exec_refreshOrLogin refused
        refine ⟨⟨.request method path token, .ok first⟩ :: events, answer, ?_,
          .notRenewed expired renewal (decided.of_error fun _ same => by cases same)⟩
        rw [log', log, List.append_assoc]
        rfl
    · rw [if_neg expired] at later
      obtain ⟨rfl, decided⟩ := exec_check later
      refine ⟨_, _, log, .once ?_ decided⟩
      intro response same
      cases same
      exact expired
  · obtain ⟨token, log, lost⟩ := exec_sendRequest sent
    exact ⟨_, _, log, .once (fun response same => by cases same) ⟨rfl, lost error rfl⟩⟩

end Parts

/-! ## The loop -/

/-- An attempt that was made: its exchanges, the answer that decides it and its outcome. -/
structure MadeAttempt (method path : String) where
  events : List ClientEvent
  answer : Exchange
  outcome : Except Error HttpResponse
  made : Attempt method path events answer outcome

/-- Attempts with the pauses between them, each twice as long as the one before. -/
def paused {method path : String} : Nat → List (MadeAttempt method path) → List ClientEvent
  | _, [] => []
  | _, [attempt] => attempt.events
  | index, attempt :: next :: rest =>
      attempt.events ++ ⟨.sleep (2 ^ index), .ok ()⟩ :: paused (index + 1) (next :: rest)

/-- Only an answer decides an attempt. -/
theorem Attempt.decided {method path : String} {events : List ClientEvent} {answer : Exchange}
    {outcome : Except Error HttpResponse} (attempt : Attempt method path events answer outcome) :
    Decides (fun response outcome => outcome = .ok response) answer outcome := by
  cases attempt with
  | once _ decided => exact decided
  | notRenewed _ _ decided => exact decided.of_error fun _ => id
  | twice _ _ _ decided => exact decided

/-- What a run of the loop consists of: some attempts with pauses, all but the last of which
may pass, and as many as there can be if the last may pass too. -/
structure LoopRun (method path : String) (first retries : Nat) (events : List ClientEvent)
    (outcome : Except Error HttpResponse) where
  earlier : List (MadeAttempt method path)
  last : MadeAttempt method path
  bounded : earlier.length ≤ retries
  logged : events = paused first (earlier ++ [last])
  passed : ∀ attempt ∈ earlier, MayPass attempt.answer
  ended : MayPass last.answer → earlier.length = retries
  result : last.outcome = outcome

private theorem paused_cons_append {method path : String} (index : Nat)
    (attempt last : MadeAttempt method path)
    (earlier : List (MadeAttempt method path)) :
    paused index (attempt :: (earlier ++ [last])) =
      attempt.events ++ ⟨.sleep (2 ^ index), .ok ()⟩ :: paused (index + 1) (earlier ++ [last]) := by
  cases earlier <;> rfl

section Loop

variable {classes : CharClasses} {method path : String} {s t : ClientState}

/-- A run of the loop is made of attempts. -/
theorem exec_requestLoop (index : Nat) {retries : Nat} {outcome : Except Error HttpResponse}
    (run : Program.Exec ServerAnswers (requestLoop classes method path (2 ^ index) retries)
      s outcome t) :
    ∃ events, t.log = s.log ++ events ∧
      Nonempty (LoopRun method path index retries events outcome) := by
  induction retries generalizing index s with
  | zero =>
      obtain ⟨events, answer, log, attempt⟩ := exec_attemptRequest run
      exact ⟨events, log, ⟨[], ⟨events, answer, outcome, attempt⟩, le_rfl, rfl, by simp,
        fun _ => rfl, rfl⟩⟩
  | succ retries ih =>
      rcases Program.Exec.of_tryCatch run with ⟨response, rfl, tried⟩ | ⟨error, u, tried, later⟩
      · obtain ⟨events, answer, log, attempt⟩ := exec_attemptRequest tried
        refine ⟨events, log, ⟨[], ⟨events, answer, .ok response, attempt⟩, Nat.zero_le _, rfl,
          by simp, fun passes => ?_, rfl⟩⟩
        obtain ⟨_, rfl, below, _⟩ := attempt.decided.of_ok
        simp only [MayPass] at passes
        omega
      · obtain ⟨events, answer, log, attempt⟩ := exec_attemptRequest tried
        have transient := decides_transient attempt.decided fun _ same => by cases same
        by_cases again : isTransient error = true
        · rw [if_pos again] at later
          rcases Program.Exec.of_bind later with ⟨_, v, slept, rest⟩ | ⟨error, rfl, slept⟩
          · cases slept.of_perform
            have doubled : 2 * 2 ^ index = 2 ^ (index + 1) := by rw [Nat.pow_succ, Nat.mul_comm]
            rw [doubled] at rest
            obtain ⟨events', log', ⟨earlier, last, bounded, logged, passed, ended, result⟩⟩ :=
              ih _ rest
            refine ⟨events ++ ⟨.sleep (2 ^ index), .ok ()⟩ :: events', ?_,
              ⟨⟨events, answer, .error error, attempt⟩ :: earlier, last, ?_, ?_, ?_, ?_, result⟩⟩
            · rw [log', log, List.append_assoc, List.append_assoc]
              rfl
            · rw [List.length_cons]
              exact Nat.succ_le_succ bounded
            · rw [List.cons_append, paused_cons_append, logged]
            · intro attempt' member
              rcases List.mem_cons.mp member with rfl | member
              · exact transient.mp again
              · exact passed attempt' member
            · intro passes
              rw [List.length_cons, ended passes]
          · cases slept.of_perform
        · rw [if_neg again] at later
          cases later
          exact ⟨events, log, ⟨[], ⟨events, answer, .error error, attempt⟩, Nat.zero_le _, rfl,
            by simp, fun passes => absurd (transient.mpr passes) again, rfl⟩⟩

/-- The server answers everything, if only by losing it. -/
theorem serverAnswers_exists (s : ClientState) (op : ClientOp) :
    ∃ answer t, ServerAnswers s op answer t := by
  have lost : ExchangeAnswers (.error .connection) := by
    intro error same
    cases same
    exact Or.inl rfl
  cases op with
  | request => exact ⟨_, _, .request lost⟩
  | postLogin => exact ⟨_, _, .login lost fun _ same => by cases same⟩
  | postRefresh => exact ⟨_, _, .refresh lost⟩
  | getAccessToken => exact ⟨_, _, .getAccess⟩
  | getRefreshToken => exact ⟨_, _, .getRefresh⟩
  | setAccessToken => exact ⟨_, _, .setAccess⟩
  | setRefreshToken => exact ⟨_, _, .setRefresh⟩
  | sleep => exact ⟨_, _, .sleep⟩

/-- Whatever the server answers, a request ends, and its run is made of attempts with pauses of
1, 2, 4, … seconds between them. All but the last may pass, there are at most as many as
allowed, and as many as that if the last may pass too. The last one's outcome is that of the
request: a response below 400, or the exception that belongs to the answer that decided it. -/
theorem request_contract (classes : CharClasses) (method path : String) (maxRetries : Nat)
    (s : ClientState) :
    (∃ outcome t, Program.Exec ServerAnswers (request classes method path maxRetries) s
      outcome t) ∧
    ∀ outcome t, Program.Exec ServerAnswers (request classes method path maxRetries) s outcome t →
      ∃ (earlier : List (MadeAttempt method path)) (last : MadeAttempt method path),
        earlier.length ≤ maxRetries ∧
        t.log = s.log ++ paused 0 (earlier ++ [last]) ∧
        (∀ attempt ∈ earlier, MayPass attempt.answer) ∧
        (MayPass last.answer → earlier.length = maxRetries) ∧
        Attempt method path last.events last.answer outcome ∧
        Decides (fun response outcome => outcome = .ok response) last.answer outcome := by
  refine ⟨Program.exec_exists serverAnswers_exists _ s, fun outcome t run => ?_⟩
  obtain ⟨_, log, ⟨earlier, last, bounded, rfl, passed, ended, rfl⟩⟩ :=
    exec_requestLoop 0 run
  exact ⟨earlier, last, bounded, log, passed, ended, last.made, last.made.decided⟩

end Loop

end WekaShareDriver
