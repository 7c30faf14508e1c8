import WekaShareDriver.RequestLoop
import WekaShareDriver.Foundation.Locks
import WekaShareDriver.Foundation.Translate

/-! # Renewing tokens under a lock

The threads of the driver share a client and its tokens. Requests read the access token without
the lock; logins and refreshes run under it (`WekaShareDriver.requestLocked`). What the stored
tokens are follows from the exchanges made so far, in their order
(`WekaShareDriver.tokensAfter`): whoever holds the lock finds the tokens that the last exchange
gave, and refreshes with them.

Hence in every interleaving no refresh sends a refresh token that a later exchange has replaced,
the stored tokens are those of the last exchange whenever the lock is free, and no request is sent
with an access token that the server did not give (`WekaShareDriver.tokens_in_order`).
-/

namespace WekaShareDriver

open Foundation Program

/-! ## Threads of one client -/

/-- A program of a thread that takes the lock of the tokens. -/
abbrev ClientThread (α : Type) : Type :=
  Program (LockOp Unit ClientOp) (LockOp.Res ClientOp.Res) Error α

/-- Obtain and store a new token pair under the lock. -/
def loginLocked (classes : CharClasses) : ClientThread Unit :=
  withLock () ((doLogin classes).lockless Unit)

/-- Refresh the access token under the lock, falling back to a full login. -/
def refreshOrLoginLocked (classes : CharClasses) : ClientThread Unit :=
  withLock () ((refreshOrLogin classes).lockless Unit)

/-- One attempt of a request; only the renewal of the tokens takes the lock. -/
def attemptRequestLocked (classes : CharClasses) (method path : String) :
    ClientThread HttpResponse := do
  let first ← (sendRequest method path).lockless Unit
  let response ←
    if first.statusCode = 401 then do
      refreshOrLoginLocked classes
      (sendRequest method path).lockless Unit
    else pure first
  (raiseForStatus response path).lockless Unit
  return response

/-- The attempts of a request, with the delay before the next one. -/
def requestLoopLocked (classes : CharClasses) (method path : String) :
    Nat → Nat → ClientThread HttpResponse
  | _, 0 => attemptRequestLocked classes method path
  | delay, retries + 1 =>
      tryCatch (attemptRequestLocked classes method path) fun error =>
        if isTransient error then do
          (onServer (.sleep delay)).lockless Unit
          requestLoopLocked classes method path (2 * delay) retries
        else throw error

/-- An authenticated request of a thread. -/
def requestLocked (classes : CharClasses) (method path : String) (maxRetries : Nat) :
    ClientThread HttpResponse := requestLoopLocked classes method path 1 maxRetries

private theorem attemptRequestLocked_unlocked (classes : CharClasses) (method path : String) :
    (attemptRequestLocked classes method path).unlocked = attemptRequest classes method path := by
  rw [attemptRequestLocked, unlocked_bind, unlocked_lockless]
  refine congrArg _ (funext fun first => ?_)
  split
  · simp only [refreshOrLoginLocked, unlocked_bind, unlocked_withLock, unlocked_lockless,
      unlocked_pure]
  · simp only [unlocked_bind, unlocked_lockless, unlocked_pure]

/-- Alone, a thread does without the lock. -/
theorem requestLocked_unlocked (classes : CharClasses) (method path : String) (maxRetries : Nat) :
    (requestLocked classes method path maxRetries).unlocked =
      request classes method path maxRetries := by
  have loop (delay : Nat) : (requestLoopLocked classes method path delay maxRetries).unlocked =
      requestLoop classes method path delay maxRetries := by
    induction maxRetries generalizing delay with
    | zero => exact attemptRequestLocked_unlocked classes method path
    | succ retries ih =>
        simp only [requestLoopLocked, requestLoop, unlocked_tryCatch,
          attemptRequestLocked_unlocked]
        refine congrArg _ (funext fun error => ?_)
        split
        · rw [unlocked_bind, unlocked_lockless]
          exact congrArg _ (funext fun _ => ih (2 * delay))
        · rfl
  exact loop 1

/-- What a thread does with the client: log in, send a request, or read the tokens. -/
inductive ClientJob where
  | login
  | request (method path : String) (maxRetries : Nat)
  | accessToken
  | refreshToken

@[reducible] def ClientJob.Res : ClientJob → Type
  | .login => Unit
  | .request .. => HttpResponse
  | _ => Option String

/-- Carry a job out. -/
def ClientJob.program (classes : CharClasses) : (job : ClientJob) → ClientThread job.Res
  | .login => loginLocked classes
  | .request method path maxRetries => requestLocked classes method path maxRetries
  | .accessToken => (onServer .getAccessToken).lockless Unit
  | .refreshToken => (onServer .getRefreshToken).lockless Unit

/-! ## The tokens that the exchanges give -/

/-- A token pair. -/
structure Tokens where
  access : Option String
  refresh : Option String
  deriving DecidableEq

/-- The tokens after an exchange: an accepted login gives both, a refresh an access token and
perhaps a refresh token. -/
def Tokens.after (tokens : Tokens) : ClientEvent → Tokens
  | ⟨.postLogin, .ok response⟩ =>
      if response.statusCode < 400 ∧ response.accessToken ≠ none then
        ⟨response.accessToken, response.refreshToken.getD none⟩
      else tokens
  | ⟨.postRefresh _, .ok response⟩ =>
      if response.statusCode = 200 ∧ response.accessToken ≠ none then
        ⟨response.accessToken, response.refreshToken.getD tokens.refresh⟩
      else tokens
  | _ => tokens

/-- The tokens that a client has after its exchanges. -/
def tokensAfter (first : Tokens) (log : List ClientEvent) : Tokens := log.foldl Tokens.after first

/-- The tokens a client has stored. -/
def ClientState.tokens (s : ClientState) : Tokens := ⟨s.accessToken, s.refreshToken⟩

private theorem tokensAfter_append (first : Tokens) (log : List ClientEvent) (event : ClientEvent) :
    tokensAfter first (log ++ [event]) = (tokensAfter first log).after event :=
  List.foldl_append

/-- The exchanges that give tokens. -/
def GivesTokens : ClientEvent → Prop
  | ⟨.postLogin, _⟩ => True
  | ⟨.postRefresh _, _⟩ => True
  | _ => False

private theorem Tokens.after_of_not_gives {event : ClientEvent} (other : ¬ GivesTokens event)
    (tokens : Tokens) : tokens.after event = tokens := by
  obtain ⟨op, answer⟩ := event
  cases op with
  | postLogin | postRefresh token => exact absurd trivial other
  | _ => rfl

private theorem tokensAfter_of_not_gives {first : Tokens} {log others : List ClientEvent}
    (none : ∀ event ∈ others, ¬ GivesTokens event) :
    tokensAfter first (log ++ others) = tokensAfter first log := by
  induction others using List.reverseRecOn with
  | nil => rw [List.append_nil]
  | append_singleton before event ih =>
      rw [← List.append_assoc, tokensAfter_append,
        Tokens.after_of_not_gives (none event (List.mem_append_right _ (List.mem_singleton_self _))),
        ih fun other member => none other (List.mem_append_left _ member)]

/-- An access token that the client has had at some time, so it has it from the server. -/
def Given (first : Tokens) (log : List ClientEvent) (token : Option String) : Prop :=
  ∃ earlier, earlier <+: log ∧ (tokensAfter first earlier).access = token

/-- A token that was given was given whatever is exchanged later. -/
theorem Given.later {first : Tokens} {log log' : List ClientEvent} {token : Option String}
    (given : Given first log token) (grown : log <+: log') : Given first log' token := by
  obtain ⟨earlier, before, same⟩ := given
  exact ⟨earlier, before.trans grown, same⟩

/-- What may come next: a refresh with the refresh token the client has, a request with an access
token that it has had. -/
def Fits (first : Tokens) (log : List ClientEvent) : ClientEvent → Prop
  | ⟨.postRefresh token, _⟩ => (tokensAfter first log).refresh = some token
  | ⟨.request _ _ token, _⟩ => Given first log token
  | _ => True

/-- Every event fits those before it, and the stored access token was given. -/
structure InOrder (first : Tokens) (s : ClientState) : Prop where
  events : ∀ before event after, s.log = before ++ event :: after → Fits first before event
  stored : Given first s.log s.accessToken

/-- The stored tokens are those that the last exchange gave. -/
def Stored (first : Tokens) (s : ClientState) : Prop := s.tokens = tokensAfter first s.log

section Order

variable {first : Tokens} {s t : ClientState}

private theorem InOrder.of_log (inOrder : InOrder first s) (log : t.log = s.log)
    (given : Given first s.log t.accessToken) : InOrder first t := by
  refine ⟨?_, ?_⟩
  · rw [log]
    exact inOrder.events
  · rw [log]
    exact given

/-- One more event that fits. -/
theorem InOrder.next (inOrder : InOrder first s) {event : ClientEvent} (log : t.log = s.log ++ [event])
    (same : t.accessToken = s.accessToken) (fits : Fits first s.log event) : InOrder first t := by
  refine ⟨fun before other after split => ?_, ?_⟩
  · rw [log] at split
    rcases List.eq_nil_or_concat after with rfl | ⟨after, last, rfl⟩
    · obtain ⟨rfl, last⟩ := List.append_inj' split rfl
      cases last
      exact fits
    · rw [List.concat_eq_append, ← List.cons_append, ← List.append_assoc] at split
      exact inOrder.events before other after (List.append_inj' split rfl).1
  · rw [same, log]
    exact inOrder.stored.later (List.prefix_append _ _)

private theorem log_grows {op : ClientOp} {answer : Except Error op.Res}
    (answered : ServerAnswers s op answer t) :
    s.log <+: t.log := by
  cases answered with
  | request | login | refresh | sleep => exact List.prefix_append _ _
  | _ => exact List.prefix_rfl

end Order

/-! ## What the lock guards -/

/-- The lock guards the tokens and the exchanges that give them. -/
def tokenDiscipline (first : Tokens) : Discipline Unit ClientState where
  same _ s t := t.tokens = s.tokens ∧
    ∃ others, t.log = s.log ++ others ∧ ∀ event ∈ others, ¬ GivesTokens event
  invariant _ s := Stored first s
  evolves :=
    { may := fun s t => s.log <+: t.log ∧ (InOrder first s → InOrder first t)
      refl := fun _ => ⟨List.prefix_rfl, id⟩
      trans := fun _ _ _ before after => ⟨before.1.trans after.1, after.2 ∘ before.2⟩ }
  same_refl _ s := ⟨rfl, [], (List.append_nil _).symm, fun _ member => absurd member List.not_mem_nil⟩
  same_trans _ _ _ _ before after := by
    obtain ⟨tokens, others, log, none⟩ := before
    obtain ⟨tokens', others', log', none'⟩ := after
    refine ⟨tokens'.trans tokens, others ++ others', ?_, fun event member => ?_⟩
    · rw [log', log, List.append_assoc]
    · rcases List.mem_append.mp member with early | late
      · exact none event early
      · exact none' event late
  kept _ s t stored same := by
    obtain ⟨tokens, others, log, none⟩ := same
    rw [Stored, tokens, log, tokensAfter_of_not_gives none]
    exact stored

section Locked

variable {first : Tokens} {classes : CharClasses} {s t : ClientState} {stored given : Tokens}

/-- What a thread knows under the lock: the tokens stored, and those that the exchanges gave. -/
structure Known (first stored given : Tokens) (s : ClientState) : Prop where
  inOrder : InOrder first s
  stored : s.tokens = stored
  given : tokensAfter first s.log = given

/-- What a thread knows of the tokens lasts while it holds the lock. -/
theorem Known.moved (known : Known first stored given s)
    (moved : ((tokenDiscipline first).inside (· = ())).may s t) : Known first stored given t := by
  obtain ⟨tokens, others, log, none⟩ := moved.1 () rfl
  refine ⟨moved.2.2 known.inOrder, tokens.trans known.stored, ?_⟩
  rw [log, tokensAfter_of_not_gives none]
  exact known.given

/-- The tokens are as the last exchange left them. -/
def Settled (first : Tokens) (s : ClientState) : Prop := InOrder first s ∧ Stored first s

/-- Tokens known to be those given are settled. -/
theorem Known.settled (known : Known first given given s) : Settled first s :=
  ⟨known.inOrder, known.stored.trans known.given.symm⟩

/-- Settled tokens are known. -/
theorem Settled.known (settled : Settled first s) : Known first s.tokens s.tokens s :=
  ⟨settled.1, rfl, settled.2.symm⟩

/-- An operation made under the lock. -/
theorem amid_known {op : ClientOp} {post : Except Error op.Res → ClientState → Prop}
    (known : Known first stored given s)
    (then' : ∀ t answer u, Known first stored given t → ServerAnswers t op answer u →
      InOrder first u ∧ post answer u) :
    (onServer op).amid ServerAnswers ((tokenDiscipline first).inside (· = ()))
      ((tokenDiscipline first).touches (· = ())) post s := by
  rw [onServer, amid_perform]
  intro t answer u moved answered
  obtain ⟨inOrder, ended⟩ := then' t answer u (known.moved moved) answered
  exact ⟨⟨fun _ free => absurd rfl free, log_grows answered, fun _ => inOrder⟩, ended⟩

/-- A pause leaves the tokens alone. -/
theorem amid_sleep {seconds : Nat} (known : Known first stored given s) :
    (onServer (.sleep seconds)).amid ServerAnswers ((tokenDiscipline first).inside (· = ()))
      ((tokenDiscipline first).touches (· = ()))
      (ending (fun _ => Known first stored given) fun _ _ => False) s := by
  refine amid_known known fun t answer u known answered => ?_
  cases answered
  have inOrder : InOrder first { t with log := t.log ++ [⟨.sleep seconds, .ok ()⟩] } :=
    known.inOrder.next rfl rfl trivial
  refine ⟨inOrder, inOrder, known.stored, ?_⟩
  rw [tokensAfter_append]
  exact known.given

/-- Storing the access token that was given. -/
theorem amid_setAccess (known : Known first stored given s) :
    (onServer (.setAccessToken given.access)).amid ServerAnswers
      ((tokenDiscipline first).inside (· = ())) ((tokenDiscipline first).touches (· = ()))
      (ending (fun _ => Known first ⟨given.access, stored.refresh⟩ given) fun _ => Settled first)
      s := by
  refine amid_known known fun t answer u known answered => ?_
  cases answered
  have inOrder : InOrder first { t with accessToken := given.access } :=
    known.inOrder.of_log rfl ⟨t.log, List.prefix_rfl, congrArg Tokens.access known.given⟩
  refine ⟨inOrder, inOrder, ?_, known.given⟩
  exact congrArg (Tokens.mk given.access) (congrArg Tokens.refresh known.stored)

/-- Storing the refresh token that was given. -/
theorem amid_setRefresh (known : Known first ⟨given.access, stored.refresh⟩ given s) :
    (onServer (.setRefreshToken given.refresh)).amid ServerAnswers
      ((tokenDiscipline first).inside (· = ())) ((tokenDiscipline first).touches (· = ()))
      (ending (fun _ => Settled first) fun _ => Settled first) s := by
  refine amid_known known fun t answer u known answered => ?_
  cases answered
  have inOrder : InOrder first { t with refreshToken := given.refresh } :=
    known.inOrder.of_log rfl known.inOrder.stored
  refine ⟨inOrder, inOrder, Eq.trans ?_ known.given.symm⟩
  exact congrArg (fun access => Tokens.mk access given.refresh)
    (congrArg Tokens.access known.stored)

private theorem raiseForStatus_of_lt {response : HttpResponse} {context : String}
    (below : response.statusCode < 400) : raiseForStatus response context = pure () := by
  rw [raiseForStatus, responseError_of_lt below]

private theorem raiseForStatus_of_not_lt {response : HttpResponse} (context : String)
    (above : ¬ response.statusCode < 400) : ∃ error, raiseForStatus response context = throw error := by
  obtain ⟨error, raised, _⟩ := matches_responseError context above
  exact ⟨error, by rw [raiseForStatus, raised]⟩

/-- The answer to a login is stored or raised. -/
theorem amid_answerLogin {response : HttpResponse}
    (known : Known first stored (stored.after ⟨.postLogin, .ok response⟩) s) :
    (answerLogin classes response).amid ServerAnswers ((tokenDiscipline first).inside (· = ()))
      ((tokenDiscipline first).touches (· = ()))
      (ending (fun _ => Settled first) fun _ => Settled first) s := by
  unfold answerLogin
  by_cases below : response.statusCode < 400
  · rw [if_neg fun locked => absurd below (by omega), raiseForStatus_of_lt below,
      LawfulMonad.pure_bind]
    cases gave : response.accessToken with
    | none =>
        rw [Tokens.after, if_neg fun given => given.2 gave] at known
        exact known.settled
    | some token =>
        rw [Tokens.after, if_pos ⟨below, gave ▸ Option.some_ne_none token⟩, gave] at known
        exact amid_bind_of _ (amid_setAccess known) fun _ _ known => amid_setRefresh known
  · have same : stored.after ⟨.postLogin, .ok response⟩ = stored := if_neg fun given => below given.1
    rw [same] at known
    split
    · exact amid_bind_of _ (amid_weaken (amid_sleep known) (fun _ _ slept => slept)
        fun _ _ => False.elim) fun _ u slept => slept.settled
    · obtain ⟨error, raised⟩ := raiseForStatus_of_not_lt "/login" below
      rw [raised]
      exact known.settled

/-- A login under the lock. -/
theorem amid_doLogin (settled : Settled first s) :
    (doLogin classes).amid ServerAnswers ((tokenDiscipline first).inside (· = ()))
      ((tokenDiscipline first).touches (· = ()))
      (ending (fun _ => Settled first) fun _ => Settled first) s := by
  have known := settled.known
  refine amid_bind_of (fun response => Known first s.tokens
    (s.tokens.after ⟨.postLogin, .ok response⟩)) (amid_known known fun t answer u known answered => ?_)
    fun response u known => amid_answerLogin known
  cases answered with
  | login =>
      have inOrder : InOrder first { t with log := t.log ++ [⟨.postLogin, answer⟩] } :=
        known.inOrder.next rfl rfl trivial
      have given := tokensAfter_append first t.log ⟨.postLogin, answer⟩
      rw [known.given] at given
      refine ⟨inOrder, ?_⟩
      cases answer with
      | ok response => exact ⟨inOrder, known.stored, given⟩
      | error error => exact Known.settled ⟨inOrder, known.stored, given⟩

/-- A refresh under the lock, with the stored refresh token. -/
theorem amid_refreshTokens {token : String} (known : Known first stored stored s)
    (has : stored.refresh = some token) :
    (refreshTokens token).amid ServerAnswers ((tokenDiscipline first).inside (· = ()))
      ((tokenDiscipline first).touches (· = ()))
      (ending (fun _ => Settled first) fun _ => Settled first) s := by
  refine amid_bind_of (fun response => Known first stored
    (stored.after ⟨.postRefresh token, .ok response⟩))
    (amid_known known fun t answer u known answered => ?_) fun response u known => ?_
  · cases answered with
    | refresh =>
        have inOrder : InOrder first { t with log := t.log ++ [⟨.postRefresh token, answer⟩] } :=
          known.inOrder.next rfl rfl ((congrArg Tokens.refresh known.given).trans has)
        have given := tokensAfter_append first t.log ⟨.postRefresh token, answer⟩
        rw [known.given] at given
        refine ⟨inOrder, ?_⟩
        cases answer with
        | ok response => exact ⟨inOrder, known.stored, given⟩
        | error error => exact Known.settled ⟨inOrder, known.stored, given⟩
  · by_cases accepted : response.statusCode = 200
    · rw [if_pos accepted]
      cases gave : response.accessToken with
      | none =>
          rw [Tokens.after, if_neg fun given => given.2 gave] at known
          exact known.settled
      | some token =>
          rw [Tokens.after, if_pos ⟨accepted, gave ▸ Option.some_ne_none token⟩, gave] at known
          refine amid_bind_of _ (amid_setAccess known) fun _ u known => ?_
          cases renewed : response.refreshToken with
          | none =>
              rw [renewed] at known
              exact known.settled
          | some refresh =>
              rw [renewed] at known
              exact amid_bind_of _ (amid_setRefresh known) fun _ _ settled => settled
    · rw [if_neg accepted]
      have same : stored.after ⟨.postRefresh token, .ok response⟩ = stored :=
        if_neg fun given => accepted given.1
      rw [same] at known
      exact known.settled

/-- A renewal under the lock. -/
theorem amid_refreshOrLogin (settled : Settled first s) :
    (refreshOrLogin classes).amid ServerAnswers ((tokenDiscipline first).inside (· = ()))
      ((tokenDiscipline first).touches (· = ()))
      (ending (fun _ => Settled first) fun _ => Settled first) s := by
  have known := settled.known
  refine amid_bind_of (fun token u => Known first s.tokens s.tokens u ∧ token = s.refreshToken)
    (amid_known known fun t answer u known answered => ?_) fun token u read => ?_
  · cases answered
    exact ⟨known.inOrder, known, congrArg Tokens.refresh known.stored⟩
  obtain ⟨known, rfl⟩ := read
  cases usable : s.refreshToken.filter (· ≠ "") with
  | none => exact amid_doLogin known.settled
  | some token =>
      have has : s.refreshToken = some token := (Option.filter_eq_some_iff.mp usable).1
      refine amid_bind_of (fun _ => Settled first) (amid_tryCatch_of (fun _ => Settled first)
        (amid_refreshTokens known has) fun _ _ settled => settled) fun refreshed t settled => ?_
      cases refreshed with
      | true => exact settled
      | false => exact amid_doLogin settled

end Locked

/-! ## Threads -/

section Threads

variable {first : Tokens} {classes : CharClasses} {ι : Type} {thread : ι}

/-- The operations made without the lock. -/
def OutsideLock : ClientOp → Prop
  | .request .. => True
  | .getAccessToken => True
  | .getRefreshToken => True
  | .sleep _ => True
  | _ => False

/-- An operation made without the lock leaves what it guards alone. -/
theorem same_of_outside {s t : ClientState} {op : ClientOp} {answer : Except Error op.Res}
    (outside : OutsideLock op) (answered : ServerAnswers s op answer t) :
    (tokenDiscipline first).same () s t := by
  have one {event : ClientEvent} (other : ¬ GivesTokens event) :
      ∀ event' ∈ [event], ¬ GivesTokens event' := by
    intro event' member
    rw [List.mem_singleton.mp member]
    exact other
  cases answered with
  | request => exact ⟨rfl, _, rfl, one not_false⟩
  | sleep => exact ⟨rfl, _, rfl, one not_false⟩
  | getAccess => exact (tokenDiscipline first).same_refl () _
  | getRefresh => exact (tokenDiscipline first).same_refl () _
  | _ => exact outside.elim

/-- An operation made without the lock. -/
theorem amid_outside {op : ClientOp} {known : ClientState → Prop} {s : ClientState}
    {post : Except Error op.Res → ClientState → Prop} (outside : OutsideLock op) (holds : known s)
    (lasting : ∀ s t, known s → (tokenDiscipline first).evolves.may s t → known t)
    (then' : ∀ t answer u, known t → ServerAnswers t op answer u →
      (InOrder first t → InOrder first u) ∧ post answer u) :
    (onServer op).amid ServerAnswers ((tokenDiscipline first).inside fun _ => False)
      ((tokenDiscipline first).touches fun _ => False) post s := by
  rw [onServer, amid_perform]
  intro t answer u moved answered
  obtain ⟨kept, ended⟩ := then' t answer u (lasting s t holds moved.2) answered
  exact ⟨⟨fun _ _ => same_of_outside outside answered, log_grows answered, kept⟩, ended⟩

/-- A request is sent with a token that was given. -/
theorem amid_sendRequest {method path : String} {s : ClientState} (inOrder : InOrder first s) :
    (sendRequest method path).amid ServerAnswers ((tokenDiscipline first).inside fun _ => False)
      ((tokenDiscipline first).touches fun _ => False) (fun _ => InOrder first) s := by
  have read : (onServer .getAccessToken).amid ServerAnswers
      ((tokenDiscipline first).inside fun _ => False)
      ((tokenDiscipline first).touches fun _ => False)
      (ending (fun token t => InOrder first t ∧ Given first t.log token) fun _ => InOrder first) s := by
    refine amid_outside trivial inOrder (fun _ _ known moved => moved.2 known)
      fun t answer u inOrder answered => ?_
    cases answered
    exact ⟨id, inOrder, inOrder.stored⟩
  rw [sendRequest, amid_bind]
  refine amid_consequence read fun outcome t ended => ?_
  cases outcome with
  | error error => exact ended
  | ok token =>
      refine amid_outside trivial ended (fun _ _ known moved =>
        ⟨moved.2 known.1, known.2.later moved.1⟩) fun u answer v known answered => ?_
      cases answered with
      | request =>
          have inOrder : InOrder first
              { u with log := u.log ++ [⟨.request method path token, answer⟩] } :=
            known.1.next rfl rfl known.2
          exact ⟨fun _ => inOrder, inOrder⟩

/-- A thread without the lock, with all events in order. -/
abbrev Ready (first : Tokens) (thread : ι) : Locked Unit ι ClientState → Prop :=
  (tokenDiscipline first).Idle thread (InOrder first)

private theorem amid_renewal {s : Locked Unit ι ClientState} {renewal : Client Unit}
    (settles : ∀ u, Settled first u → renewal.amid ServerAnswers
      ((tokenDiscipline first).inside (· = ())) ((tokenDiscipline first).touches (· = ()))
      (ending (fun _ => Settled first) fun _ => Settled first) u)
    (ready : Ready first thread s) :
    (withLock () (renewal.lockless Unit)).amid (LockAnswers ServerAnswers thread)
      ((tokenDiscipline first).rely thread) ((tokenDiscipline first).respecting thread)
      (fun _ => Ready first thread) s := by
  have lasting (u v : ClientState) (inOrder : InOrder first u)
      (moved : (tokenDiscipline first).evolves.may u v) : InOrder first v := moved.2 inOrder
  refine amid_consequence (amid_withLock lasting (fun _ => lasting) (fun _ => lasting)
    (fun u inOrder stored => amid_weaken (settles u ⟨inOrder, stored⟩)
      (fun _ _ settled => ⟨settled.2, settled.1⟩) fun _ _ settled => ⟨settled.2, settled.1⟩) ready)
    fun outcome t ended => ?_
  cases outcome <;> exact ended

private theorem amid_attemptRequest {method path : String} {s : Locked Unit ι ClientState}
    (ready : Ready first thread s) :
    (attemptRequestLocked classes method path).amid (LockAnswers ServerAnswers thread)
      ((tokenDiscipline first).rely thread) ((tokenDiscipline first).respecting thread)
      (fun _ => Ready first thread) s := by
  have checked {response : HttpResponse} {t : Locked Unit ι ClientState}
      (ready : Ready first thread t) :
      ((raiseForStatus response path).lockless Unit >>= fun _ => pure response).amid
        (LockAnswers ServerAnswers thread) ((tokenDiscipline first).rely thread)
        ((tokenDiscipline first).respecting thread) (fun _ => Ready first thread) t := by
    by_cases below : response.statusCode < 400
    · rw [raiseForStatus_of_lt below]
      exact ready
    · obtain ⟨error, raised⟩ := raiseForStatus_of_not_lt path below
      rw [raised]
      exact ready
  refine amid_bind_always (amid_free (amid_sendRequest ready.known) ready) fun response t ready => ?_
  split
  · exact amid_bind_always (amid_renewal (fun _ => amid_refreshOrLogin) ready) fun _ t ready =>
      amid_bind_always (amid_free (amid_sendRequest ready.known) ready) fun _ t ready =>
        checked ready
  · exact checked ready

private theorem amid_requestLoop {method path : String} {retries : Nat} (delay : Nat)
    {s : Locked Unit ι ClientState} (ready : Ready first thread s) :
    (requestLoopLocked classes method path delay retries).amid (LockAnswers ServerAnswers thread)
      ((tokenDiscipline first).rely thread) ((tokenDiscipline first).respecting thread)
      (fun _ => Ready first thread) s := by
  induction retries generalizing delay s with
  | zero => exact amid_attemptRequest ready
  | succ retries ih =>
      refine amid_tryCatch_always (amid_attemptRequest ready) fun error t ready => ?_
      split
      · have sleeps : (onServer (.sleep delay)).amid ServerAnswers
            ((tokenDiscipline first).inside fun _ => False)
            ((tokenDiscipline first).touches fun _ => False) (fun _ => InOrder first) t.shared := by
          refine amid_outside trivial ready.known (fun _ _ known moved => moved.2 known)
            fun u answer v inOrder answered => ?_
          cases answered
          exact ⟨fun _ => inOrder.next rfl rfl trivial, inOrder.next rfl rfl trivial⟩
        exact amid_bind_always (amid_free sleeps ready) fun _ u ready => ih (2 * delay) ready
      · exact ready

/-- A job keeps the events in order and leaves its thread without the lock. -/
theorem amid_clientJob {job : ClientJob} {s : Locked Unit ι ClientState}
    (ready : Ready first thread s) :
    (job.program classes).amid (LockAnswers ServerAnswers thread)
      ((tokenDiscipline first).rely thread) ((tokenDiscipline first).respecting thread)
      (fun _ => Ready first thread) s := by
  have reads {op : ClientOp} (outside : OutsideLock op)
      (silent : ∀ s answer t, ServerAnswers s op answer t → t = s) :
      ((onServer op).lockless Unit).amid (LockAnswers ServerAnswers thread)
        ((tokenDiscipline first).rely thread) ((tokenDiscipline first).respecting thread)
        (fun _ => Ready first thread) s := by
    have stands : (onServer op).amid ServerAnswers ((tokenDiscipline first).inside fun _ => False)
        ((tokenDiscipline first).touches fun _ => False) (fun _ => InOrder first) s.shared := by
      refine amid_outside outside ready.known (fun _ _ known moved => moved.2 known)
        fun u answer v inOrder answered => ?_
      rw [silent u answer v answered]
      exact ⟨id, inOrder⟩
    exact amid_free stands ready
  cases job with
  | login => exact amid_renewal (fun _ => amid_doLogin) ready
  | request method path maxRetries => exact amid_requestLoop 1 ready
  | accessToken => exact reads trivial fun s answer t answered => by cases answered; rfl
  | refreshToken => exact reads trivial fun s answer t answered => by cases answered; rfl

/-- The threads of a client, each with its own jobs to do. -/
def clientThreads (classes : CharClasses) (jobs : ι → Program ClientJob ClientJob.Res Error Unit)
    (start : ClientState) :
    Pool (LockOp Unit ClientOp) (LockOp.Res ClientOp.Res) Error (Locked Unit ι ClientState)
      (fun _ : ι => Unit) :=
  ⟨fun i => (jobs i).translate (ClientJob.program classes), .unowned start⟩

/-- However many threads send requests and log in through one client, and whatever the server
answers: each refresh sends the refresh token that the exchanges before it gave last, each request
an access token that was given, and the stored tokens are those given last whenever the lock is
free. -/
theorem tokens_in_order [DecidableEq ι] (classes : CharClasses)
    (jobs : ι → Program ClientJob ClientJob.Res Error Unit) (start : ClientState)
    (unused : start.log = [])
    {pool : Pool (LockOp Unit ClientOp) (LockOp.Res ClientOp.Res) Error (Locked Unit ι ClientState)
      (fun _ : ι => Unit)}
    (reached : Interleaves (LockAnswers ServerAnswers) (clientThreads classes jobs start) pool) :
    (∀ before event after, pool.state.shared.log = before ++ event :: after →
      Fits start.tokens before event) ∧
    Given start.tokens pool.state.shared.log pool.state.shared.accessToken ∧
    (pool.state.owner () = none →
      pool.state.shared.tokens = tokensAfter start.tokens pool.state.shared.log) := by
  have initial : InOrder start.tokens start := by
    refine ⟨fun before event after split => ?_, [], List.nil_prefix, rfl⟩
    rw [unused] at split
    exact absurd split.symm (List.append_ne_nil_of_right_ne_nil _ (List.cons_ne_nil _ _))
  have stored : Stored start.tokens start := by
    rw [Stored, unused]
    rfl
  have holds (i : ι) : ((clientThreads classes jobs start).threads i).amid
      (LockAnswers ServerAnswers i) ((tokenDiscipline start.tokens).rely i)
      ((tokenDiscipline start.tokens).respecting i) (fun _ => Ready start.tokens i)
      (clientThreads classes jobs start).state :=
    amid_translate (uses_anything _) (fun _ _ _ ready => amid_clientJob ready)
      (Discipline.idle_unowned (fun _ => stored) initial)
  have lasting (u v : ClientState) (inOrder : InOrder start.tokens u)
      (moved : (tokenDiscipline start.tokens).evolves.may u v) : InOrder start.tokens v :=
    moved.2 inOrder
  have inOrder : InOrder start.tokens pool.state.shared :=
    Discipline.safe_of_interleaves reached holds (fun _ _ => lasting) initial lasting
  exact ⟨inOrder.events, inOrder.stored,
    Discipline.free_of_interleaves reached holds (fun _ _ => lasting) (fun _ _ => stored) ()⟩

end Threads

section Sample

/-- A client with its first tokens. -/
def freshClient : ClientState := ⟨some "access 1", some "refresh 1", []⟩

/-- The answer to a refresh. -/
def refreshedWith (access refresh : String) : HttpResponse :=
  ⟨200, "", "", some access, some (some refresh)⟩

/-- The answer to a request whose token has expired. -/
def expired : HttpResponse := ⟨401, "", "", none, none⟩

/-- The refresh token that an event sends. -/
def sentRefresh : ClientEvent → Option String
  | ⟨.postRefresh token, _⟩ => some token
  | _ => none

/-- Two threads are told that the access token has expired. Each renews it; the second one sends
the refresh token that the first one was given. -/
theorem tokens_in_order_sample :
    ∃ pool, Interleaves (LockAnswers ServerAnswers)
        (clientThreads asciiClasses (fun _ : Bool =>
          perform (ClientJob.request "GET" "/cluster" 0) >>= fun _ => pure ()) freshClient) pool ∧
      pool.state.shared.log.filterMap sentRefresh = ["refresh 1", "refresh 2"] ∧
      pool.state.shared.tokens = tokensAfter freshClient.tokens pool.state.shared.log := by
  have answers (response : HttpResponse) : ExchangeAnswers (.ok response) := by
    intro error clash
    cases clash
  have run : Interleaves (LockAnswers ServerAnswers)
    (clientThreads asciiClasses (fun _ : Bool =>
      perform (ClientJob.request "GET" "/cluster" 0) >>= fun _ => pure ()) freshClient) _ := .start
  have run := run.step (i := true) rfl (.call .getAccess)
  have run := run.step (i := true) rfl (.call (.request (answers expired)))
  have run := run.step (i := false) rfl (.call .getAccess)
  have run := run.step (i := false) rfl (.call (.request (answers expired)))
  have run := run.step (i := true) rfl (.acquire rfl)
  have run := run.step (i := true) rfl (.call .getRefresh)
  have run := run.step (i := true) rfl (.call (.refresh (answers (refreshedWith "access 2" "refresh 2"))))
  have run := run.step (i := true) rfl (.call .setAccess)
  have run := run.step (i := true) rfl (.call .setRefresh)
  have run := run.step (i := true) rfl .release
  have run := run.step (i := false) rfl (.acquire rfl)
  have run := run.step (i := false) rfl (.call .getRefresh)
  have run := run.step (i := false) rfl (.call (.refresh (answers (refreshedWith "access 3" "refresh 3"))))
  have run := run.step (i := false) rfl (.call .setAccess)
  have run := run.step (i := false) rfl (.call .setRefresh)
  have run := run.step (i := false) rfl .release
  exact ⟨_, run, rfl, (tokens_in_order asciiClasses _ freshClient rfl run).2.2 rfl⟩

end Sample

end WekaShareDriver
