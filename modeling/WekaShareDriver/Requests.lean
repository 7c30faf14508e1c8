import WekaShareDriver.World

/-! # Requests over a network that loses responses

The client sends a request again after a transient error. A create that the cluster
has executed, and whose response is lost, is then answered with a conflict: for the
driver the create has failed, and for the cluster it has succeeded
(`WekaShareDriver.lossy_iff`).
-/

namespace WekaShareDriver

open Foundation Program

/-- The errors after which a request is sent again: 429, 5xx or no status at all, a
connection error and a timeout. -/
def isTransient : Error → Bool
  | .api error =>
      error.kind == .rateLimited ||
        match error.statusCode with
        | some code => code == 0 || decide (500 ≤ code)
        | none => true
  | .connection => true
  | .timeout => true
  | _ => false

/-- Send a request, and again after a transient error while retries are left. The
last error is raised. -/
def requestWithRetries (op : Op) : Nat → Program Unit (fun _ => op.Res) Error op.Res
  | 0 => perform ()
  | retries + 1 =>
      tryCatch (perform ()) fun error =>
        if isTransient error then requestWithRetries op retries else throw error

/-- A create that the cluster executes. -/
def CreateExecuted (op : Op) (w : World) : Prop :=
  ∃ session request, op = .api session request ∧ request.isCreate = true ∧
    ∃ reply, (respond op w).1 = .ok reply

/-- How the response to a request is lost: by a connection error, a timeout or a
server error. -/
inductive LostWith : Error → Prop where
  | connection : LostWith .connection
  | timeout : LostWith .timeout
  | server {statusCode : Nat} (reason : String) (server : 500 ≤ statusCode) :
      LostWith (.api (.generic statusCode reason))

/-- A request under way: the world, and whether the cluster has executed it and the
response was lost. -/
structure InFlight where
  world : World
  executed : Bool

/-- What one attempt at a request is answered. The response to a create may be lost,
and the cluster answers the repeated create with a conflict. -/
inductive Attempted (losing : World → Op → Prop) (op : Op) :
    InFlight → Unit → Except Error op.Res → InFlight → Prop where
  | answered (w : World) :
      Attempted losing op ⟨w, false⟩ () (respond op w).1 ⟨(respond op w).2, false⟩
  | lost {w : World} {error : Error} (loses : losing w op) (executed : CreateExecuted op w)
      (with' : LostWith error) :
      Attempted losing op ⟨w, false⟩ () (.error error) ⟨(respond op w).2, true⟩
  | repeated (w : World) (reason : String) :
      Attempted losing op ⟨w, true⟩ () (.error (.api (.conflict reason))) ⟨w, true⟩

/-- The cluster as the driver sees it through the client over such a network. -/
def lossy (maxRetries : Nat) (losing : World → Op → Prop) : Service Op Op.Res Error World
  | w, .api session request, answer, t =>
      ∃ executed, Exec (Attempted losing (.api session request))
        (requestWithRetries (.api session request) maxRetries) ⟨w, false⟩ answer ⟨t, executed⟩
  | w, op, answer, t => respond op w = (answer, t)

variable {losing : World → Op → Prop} {op : Op} {w t : World}

/-- An error of a lost response is one that is tried again. -/
theorem LostWith.transient {error : Error} (lost : LostWith error) : isTransient error = true := by
  cases lost with
  | connection | timeout => rfl
  | server reason server =>
      simp only [isTransient, WekaApiError.generic, Bool.or_eq_true, decide_eq_true_eq]
      exact Or.inr (Or.inr server)

/-- A request that is refused changes nothing. -/
theorem answer_refused {cluster : Cluster} {session : Session} {request : Request}
    {error : WekaApiError} (refused : (cluster.answer session request).1 = .error error) :
    (cluster.answer session request).2 = cluster := by
  generalize answered : cluster.answer session request = answer at refused ⊢
  obtain ⟨reply, after⟩ := answer
  dsimp only at refused
  subst refused
  cases request with
  | createOrganization name username password | createUser username role password
    | createFilesystem name groupName totalCapacity authRequired
    | createSecurityPolicy name ips readOnly | createClientGroup name
    | createNfsPermission group filesystem path type squash =>
      simp only [Cluster.answer, Cluster.create] at answered
      split at answered
      · cases answered
        rfl
      · cases answered
  | createSnapshot fsUid name isWritable =>
      simp only [Cluster.answer, Cluster.create] at answered
      split at answered
      · split at answered
        · cases answered
          rfl
        · cases answered
      · cases answered
        rfl
  | _ =>
      simp only [Cluster.answer] at answered
      repeat' split at answered
      all_goals cases answered
      all_goals rfl

/-- A refused request changes nothing. -/
theorem respond_refused {session : Session} {request : Request} {error : Error}
    (refused : (respond (.api session request) w).1 = .error error) :
    respond (.api session request) w = (.error error, w) := by
  refine Prod.ext refused ?_
  change { w with cluster := (w.cluster.answer session request).2 } = w
  cases answered : (w.cluster.answer session request).1 with
  | ok reply =>
      change asRaised (w.cluster.answer session request).1 = _ at refused
      rw [answered] at refused
      cases refused
  | error error' => rw [answer_refused answered]

/-- The first attempt is answered, or executed without an answer. -/
theorem attempted_first {answer : Except Error op.Res} {f : InFlight}
    (attempted : Attempted losing op ⟨w, false⟩ () answer f) :
    answer = (respond op w).1 ∧ f = ⟨(respond op w).2, false⟩ ∨
      losing w op ∧ CreateExecuted op w ∧ f = ⟨(respond op w).2, true⟩ ∧
        ∃ error, LostWith error ∧ answer = .error error := by
  cases attempted with
  | answered => exact Or.inl ⟨rfl, rfl⟩
  | lost loses executed with' => exact Or.inr ⟨loses, executed, rfl, _, with', rfl⟩

/-- A request that was executed and whose response was lost ends with a conflict. -/
theorem exec_repeated {retries : Nat} {answer : Except Error op.Res} {f : InFlight}
    (run : Exec (Attempted losing op) (requestWithRetries op retries) ⟨w, true⟩ answer f) :
    f = ⟨w, true⟩ ∧ ∃ reason, answer = .error (.api (.conflict reason)) := by
  have attempt {answer : Except Error op.Res} {f : InFlight}
      (run : Exec (Attempted losing op) (perform ()) ⟨w, true⟩ answer f) :
      f = ⟨w, true⟩ ∧ ∃ reason, answer = .error (.api (.conflict reason)) := by
    cases run.of_perform with
    | repeated _ reason => exact ⟨rfl, reason, rfl⟩
  cases retries with
  | zero => exact attempt run
  | succ retries =>
      rcases run.of_tryCatch with ⟨value, rfl, first⟩ | ⟨error, f', first, second⟩
      · obtain ⟨-, reason, impossible⟩ := attempt first
        cases impossible
      · obtain ⟨rfl, reason, conflict⟩ := attempt first
        cases conflict
        cases second
        exact ⟨rfl, reason, rfl⟩

/-- A request the cluster refuses ends with its refusal. -/
theorem exec_refused {retries : Nat} {answer : Except Error op.Res} {f : InFlight}
    {error : Error} (refused : respond op w = (.error error, w))
    (run : Exec (Attempted losing op) (requestWithRetries op retries) ⟨w, false⟩ answer f) :
    f = ⟨w, false⟩ ∧ answer = .error error := by
  have attempt {answer : Except Error op.Res} {f : InFlight}
      (run : Exec (Attempted losing op) (perform ()) ⟨w, false⟩ answer f) :
      f = ⟨w, false⟩ ∧ answer = .error error := by
    rcases attempted_first run.of_perform with ⟨rfl, rfl⟩ | ⟨-, executed, -⟩
    · rw [refused]
      exact ⟨rfl, rfl⟩
    · obtain ⟨_, _, _, _, reply, replied⟩ := executed
      rw [refused] at replied
      cases replied
  induction retries generalizing answer f with
  | zero => exact attempt run
  | succ retries ih =>
      rcases run.of_tryCatch with ⟨value, rfl, first⟩ | ⟨error', f', first, second⟩
      · exact attempt first
      · obtain ⟨rfl, same⟩ := attempt first
        cases same
        split at second
        · exact ih second
        · cases second
          exact ⟨rfl, rfl⟩

/-- However often it may be retried, a request is answered as the cluster answers
it if no response is lost. -/
theorem exec_answered {session : Session} {request : Request} (retries : Nat) :
    Exec (Attempted losing (.api session request))
      (requestWithRetries (.api session request) retries) ⟨w, false⟩
      (respond (.api session request) w).1 ⟨(respond (.api session request) w).2, false⟩ := by
  have attempt : Exec (Attempted losing (.api session request)) (perform ()) ⟨w, false⟩
      (respond (.api session request) w).1 ⟨(respond (.api session request) w).2, false⟩ :=
    .perform (.answered w)
  induction retries with
  | zero => exact attempt
  | succ retries ih =>
      cases replied : (respond (.api session request) w).1 with
      | ok reply =>
          rw [replied] at attempt
          exact attempt.tryCatch_ok
      | error error =>
          have refused := respond_refused replied
          rw [refused] at attempt ih ⊢
          refine attempt.tryCatch_error ?_
          split
          · exact ih
          · exact .fail _ _

/-- For the driver a request is answered as the cluster answers it, except that a
create whose response is lost is executed and then refused with a conflict. -/
theorem lossy_iff {maxRetries : Nat} (retried : 1 ≤ maxRetries) {session : Session}
    {request : Request} {answer : Except Error request.Reply} :
    lossy maxRetries losing w (.api session request) answer t ↔
      respond (.api session request) w = (answer, t) ∨
        losing w (.api session request) ∧ CreateExecuted (.api session request) w ∧
          t = (respond (.api session request) w).2 ∧
            ∃ reason, answer = .error (.api (.conflict reason)) := by
  obtain ⟨retries, rfl⟩ := Nat.exists_eq_add_of_le' retried
  constructor
  · rintro ⟨executed, run⟩
    rcases run.of_tryCatch with ⟨value, rfl, first⟩ | ⟨error, f, first, second⟩
    · rcases attempted_first first.of_perform with ⟨replied, left⟩ | ⟨-, -, -, error, -, impossible⟩
      · exact Or.inl (Prod.ext replied.symm (congrArg InFlight.world left).symm)
      · cases impossible
    · rcases attempted_first first.of_perform with ⟨replied, rfl⟩ | ⟨loses, executed', rfl, _, lost, same⟩
      · left
        have refused := respond_refused replied.symm
        rw [refused] at second ⊢
        split at second
        · obtain ⟨left, rfl⟩ := exec_refused refused second
          cases left
          rfl
        · cases second
          rfl
      · cases same
        rw [if_pos lost.transient] at second
        obtain ⟨left, reason, conflict⟩ := exec_repeated second
        exact Or.inr ⟨loses, executed', congrArg InFlight.world left, reason, conflict⟩
  · rintro (replied | ⟨loses, executed, rfl, reason, rfl⟩)
    · have answered : Exec (Attempted losing (.api session request))
          (requestWithRetries (.api session request) (retries + 1)) ⟨w, false⟩
          (respond (.api session request) w).1 ⟨(respond (.api session request) w).2, false⟩ :=
        exec_answered _
      rw [replied] at answered
      exact ⟨false, answered⟩
    · have lost : Exec (Attempted losing (.api session request)) (perform ()) ⟨w, false⟩
          (.error .connection) ⟨(respond (.api session request) w).2, true⟩ :=
        .perform (.lost loses executed .connection)
      refine ⟨true, lost.tryCatch_error ?_⟩
      rw [if_pos LostWith.connection.transient]
      cases retries with
      | zero => exact .perform (.repeated _ reason)
      | succ retries =>
          refine Exec.tryCatch_error (.perform (.repeated _ reason)) ?_
          exact .fail _ _

end WekaShareDriver
