import WekaShareDriver.RequestLoop

/-! # A request takes effect once

The client sends a request again after a transient error, and again with a new token after a 401;
it cannot know whether the cluster executed what it sent before. It does not have to: every request
may be executed twice with the effect of once (`WekaShareDriver.Cluster.answer_again`), and a
create that was executed is refused the second time. So whatever the network loses, the cluster is
left as by one execution of the request or untouched (`WekaShareDriver.request_at_most_once`).
-/

namespace WekaShareDriver

open Foundation Program

/-! ## Requests that are repeated -/

namespace Cluster

variable {ρ κ : Type} [Keyed ρ κ] {registry : Registry ρ} {uid : Uid} {visible : ρ → Bool}
  {entry : Entry ρ}

private theorem owned_eq_some_iff :
    owned registry uid visible = some entry ↔
      registry.get? uid = some entry ∧ visible entry.val = true :=
  Option.filter_eq_some_iff

/-- A record that was changed is still its owner's. -/
theorem owned_modify (found : owned registry uid visible = some entry) (change' : ρ → ρ)
    (keeps : ∀ val, Keyed.key (change' val) = Keyed.key val)
    (seen : visible (change' entry.val) = visible entry.val) :
    owned (registry.modify entry.uid change' keeps) uid visible =
      some ⟨entry.uid, change' entry.val⟩ := by
  obtain ⟨listed, mine⟩ := owned_eq_some_iff.mp found
  have same : entry.uid = uid := (Registry.get?_eq_some_iff.mp listed).2
  subst same
  exact owned_eq_some_iff.mpr ⟨Registry.get?_modify listed change' keeps, seen.trans mine⟩

private theorem owned_erase (found : owned registry uid visible = some entry) :
    owned (registry.erase entry.uid) uid visible = none := by
  have same : entry.uid = uid :=
    (Registry.get?_eq_some_iff.mp (owned_eq_some_iff.mp found).1).2
  rw [owned, ← same, Registry.get?_erase]
  rfl

/-- A record that was created is not created again. -/
theorem create_again [DecidableEq κ] {val : ρ} {taken : WekaApiError} {entry : Entry ρ}
    (created : (create registry val taken).1 = .ok entry) :
    create (create registry val taken).2 val taken =
      (.error taken, (create registry val taken).2) := by
  cases found : registry.find? (Keyed.key val) with
  | some _ =>
      simp only [create, found] at created
      cases created
  | none =>
      simp only [create, found, Registry.find?_insert _ _ found, Function.update_self]

end Cluster

/-- A change that is made again changes nothing more. -/
theorem SecurityPolicy.detach_detach (policy : SecurityPolicy) (fsUid : Uid) :
    (policy.detach fsUid).detach fsUid = policy.detach fsUid := by
  simp [SecurityPolicy.detach]

private theorem SecurityPolicy.update_update (policy : SecurityPolicy)
    (addIps removeIps : List String) :
    (policy.update addIps removeIps).update addIps removeIps = policy.update addIps removeIps := by
  have added :
      (addIps.filter (· ∉ (policy.update addIps removeIps).ips)).filter (· ∉ removeIps) = [] := by
    refine List.filter_eq_nil_iff.mpr fun ip member kept => ?_
    obtain ⟨asked, absent⟩ := List.mem_filter.mp member
    refine of_decide_eq_true absent (List.mem_filter.mpr ⟨?_, kept⟩)
    by_cases listed : ip ∈ policy.ips
    · exact List.mem_append_left _ listed
    · exact List.mem_append_right _ (List.mem_filter.mpr ⟨asked, decide_eq_true listed⟩)
  have ips : ((policy.update addIps removeIps).ips ++
      addIps.filter (· ∉ (policy.update addIps removeIps).ips)).filter (· ∉ removeIps) =
        (policy.update addIps removeIps).ips := by
    rw [List.filter_append, added, List.append_nil]
    simp [SecurityPolicy.update]
  exact congrArg (fun ips => { policy with ips }) ips

private theorem ClientGroup.deleteRule_deleteRule (group : ClientGroup) (ruleUid : Uid) :
    (group.deleteRule ruleUid).deleteRule ruleUid = group.deleteRule ruleUid := by
  simp [ClientGroup.deleteRule]

namespace Cluster

/-- Changing a record again as it was changed changes nothing more. -/
theorem modify_again {ρ κ : Type} [Keyed ρ κ] (registry : Registry ρ) (uid : Uid)
    (change' : ρ → ρ) (keeps : ∀ val, Keyed.key (change' val) = Keyed.key val)
    (again : ∀ val, change' (change' val) = change' val) :
    (registry.modify uid change' keeps).modify uid change' keeps =
      registry.modify uid change' keeps := by
  rw [Registry.modify_modify]
  congr 1
  exact funext again

variable {session : Session} {request : Request} {cluster : Cluster}

/-- A create that was executed is refused when it is repeated. -/
theorem refused_again (creates : request.isCreate = true) {reply : request.Reply}
    (executed : (cluster.answer session request).1 = .ok reply) :
    ∃ error, ((cluster.answer session request).2.answer session request).1 = .error error := by
  cases request with
  | createOrganization | createFilesystem | createSecurityPolicy | createClientGroup
    | createNfsPermission =>
      simp only [answer] at executed ⊢
      exact ⟨_, congrArg Prod.fst (create_again executed)⟩
  | createUser name role password =>
      simp only [answer] at executed ⊢
      cases created : (create cluster.users ⟨session, name, role, password⟩
          (.generic 400 "/users: username already in use")).1 with
      | ok entry =>
          rw [create_again created]
          exact ⟨_, rfl⟩
      | error error =>
          rw [created] at executed
          cases executed
  | createSnapshot fsUid name isWritable =>
      simp only [answer] at executed ⊢
      cases found : owned cluster.filesystems fsUid fun fs => fs.org = session with
      | some entry =>
          simp only [found] at executed ⊢
          exact ⟨_, congrArg Prod.fst (create_again executed)⟩
      | none =>
          rw [found] at executed
          cases executed
  | attachFsSecurityPolicy fsUid policyUid =>
      cases found : owned cluster.policies policyUid fun policy => policy.org = session with
      | some entry =>
          by_cases attached : fsUid ∈ entry.val.attached
          · simp only [answer, found, attached, ↓reduceIte] at executed
            cases executed
          · have listed : fsUid ∈ (entry.val.attach fsUid).attached :=
              List.mem_append_right _ (List.mem_singleton.mpr rfl)
            simp only [answer, found, attached, ↓reduceIte,
              owned_modify found (fun policy => policy.attach fsUid) (fun _ => rfl) rfl, listed]
            exact ⟨_, rfl⟩
      | none =>
          simp only [answer, found] at executed
          cases executed
  | addClientGroupRule uid type value =>
      cases found : cluster.clientGroups.get? uid with
      | some entry =>
          have same : entry.uid = uid := (Registry.get?_eq_some_iff.mp found).2
          subst same
          by_cases there :
              ∃ rule ∈ entry.val.rules, rule.type = type ∧ rule.rule = storedRule value
          · simp only [answer, found, there, ↓reduceIte] at executed
            cases executed
          · have added : ∃ rule ∈ (entry.val.addRule type (storedRule value)).rules,
                rule.type = type ∧ rule.rule = storedRule value :=
              ⟨_, List.mem_append_right _ (List.mem_singleton.mpr rfl), rfl, rfl⟩
            simp only [answer, found, there, ↓reduceIte,
              Registry.get?_modify found (fun group => group.addRule type (storedRule value))
                (fun _ => rfl), added]
            exact ⟨_, rfl⟩
      | none =>
          simp only [answer, found] at executed
          cases executed
  | _ => cases creates

/-- A request that is executed again changes nothing more. -/
theorem answer_again (session : Session) (request : Request) (cluster : Cluster) :
    ((cluster.answer session request).2.answer session request).2 =
      (cluster.answer session request).2 := by
  have unchanged {request : Request} (same : (cluster.answer session request).2 = cluster) :
      ((cluster.answer session request).2.answer session request).2 =
        (cluster.answer session request).2 := by
    rw [same, same]
  cases replied : (cluster.answer session request).1 with
  | error error => rw [answer_refused replied, answer_refused replied]
  | ok reply =>
      by_cases creates : request.isCreate = true
      · obtain ⟨error, refused⟩ := refused_again creates replied
        exact answer_refused refused
      · cases request with
        | updateFilesystem uid totalCapacity =>
            cases found : owned cluster.filesystems uid fun fs => fs.org = session with
            | some entry =>
                simp only [answer, found,
                  owned_modify found (fun fs => { fs with totalCapacity }) (fun _ => rfl) rfl,
                  modify_again cluster.filesystems entry.uid (fun fs => { fs with totalCapacity })
                    (fun _ => rfl) fun _ => rfl]
            | none => simp only [answer, found]
        | updateSecurityPolicy uid addIps removeIps =>
            cases found : owned cluster.policies uid fun policy => policy.org = session with
            | some entry =>
                simp only [answer, found, owned_modify found
                    (fun policy => policy.update addIps removeIps) (fun _ => rfl) rfl,
                  modify_again cluster.policies entry.uid
                    (fun policy => policy.update addIps removeIps) (fun _ => rfl)
                    fun policy => policy.update_update addIps removeIps]
            | none => simp only [answer, found]
        | detachFsSecurityPolicy fsUid policyUid =>
            cases found : owned cluster.policies policyUid fun policy => policy.org = session with
            | some entry =>
                simp only [answer, found,
                  owned_modify found (fun policy => policy.detach fsUid) (fun _ => rfl) rfl,
                  modify_again cluster.policies entry.uid (fun policy => policy.detach fsUid)
                    (fun _ => rfl) fun policy => policy.detach_detach fsUid]
            | none => simp only [answer, found]
        | deleteClientGroupRule uid ruleUid =>
            cases found : cluster.clientGroups.get? uid with
            | some entry =>
                have same : entry.uid = uid := (Registry.get?_eq_some_iff.mp found).2
                subst same
                simp only [answer, found, Registry.get?_modify found
                    (fun group => group.deleteRule ruleUid) (fun _ => rfl),
                  modify_again cluster.clientGroups entry.uid
                    (fun group => group.deleteRule ruleUid) (fun _ => rfl)
                    fun group => group.deleteRule_deleteRule ruleUid]
            | none => simp only [answer, found]
        | deleteFilesystem uid =>
            cases found : owned cluster.filesystems uid fun fs => fs.org = session with
            | some entry => simp only [answer, found, owned_erase found]
            | none => simp only [answer, found]
        | deleteSnapshot uid =>
            cases found : owned cluster.snapshots uid fun snap => snap.org = session with
            | some entry => simp only [answer, found, owned_erase found]
            | none => simp only [answer, found]
        | deleteSecurityPolicy uid =>
            cases found : owned cluster.policies uid fun policy => policy.org = session with
            | some entry => simp only [answer, found, owned_erase found]
            | none => simp only [answer, found]
        | deleteClientGroup uid =>
            cases found : cluster.clientGroups.get? uid with
            | some entry =>
                have same : entry.uid = uid := (Registry.get?_eq_some_iff.mp found).2
                by_cases bare : entry.val.rules = []
                · simp only [answer, found, bare, ↓reduceIte, same, Registry.get?_erase]
                · simp only [answer, found, bare, ↓reduceIte]
            | none => simp only [answer, found]
        | deleteNfsPermission uid =>
            cases found : cluster.permissions.get? uid with
            | some entry =>
                have same : entry.uid = uid := (Registry.get?_eq_some_iff.mp found).2
                simp only [answer, found, same, Registry.get?_erase]
            | none => simp only [answer, found]
        | listOrganizations | listFilesystems | listSnapshots | listSecurityPolicies
          | listClientGroups | listNfsPermissions => rfl
        | getFilesystem | getClientGroup | restoreSnapshot =>
            refine unchanged ?_
            simp only [answer]
            split <;> rfl
        | _ => exact absurd rfl creates

end Cluster

/-! ## The wire -/

/-- What the client of a session works on: the cluster at the other end, and the stored tokens. -/
structure Wire where
  world : World
  accessToken : Option String
  refreshToken : Option String

/-- A response whose status does not tell whether the request was executed. -/
def Declines (response : HttpResponse) : Prop :=
  response.statusCode = 401 ∨ response.statusCode = 403 ∨ response.statusCode = 429 ∨
    500 ≤ response.statusCode

/-- A response that carries what the cluster answered: the body of a reply is as `writes` has it. -/
def Carries {request : Request} (writes : request.Reply → HttpResponse → Prop) (path : String)
    (response : HttpResponse) : Except Error request.Reply → Prop
  | .ok reply => response.statusCode < 400 ∧ writes reply response
  | .error error => responseError response path = some error

/-- The world after a request was executed. -/
def executed (session : Session) (request : Request) (w : World) : World :=
  (respond (.api session request) w).2

/-- What may happen to an operation of the client while it sends a request. The cluster executes
it and the response arrives or not, or it does not get that far. -/
inductive Wired (session : Session) (request : Request)
    (writes : request.Reply → HttpResponse → Prop) :
    Wire → (op : ClientOp) → Except Error op.Res → Wire → Prop where
  | answered {wire : Wire} {method path : String} {token : Option String}
      {response : HttpResponse} :
      Carries writes path response (respond (.api session request) wire.world).1 →
      Wired session request writes wire (.request method path token) (.ok response)
        { wire with world := executed session request wire.world }
  | failed {wire : Wire} {method path : String} {token : Option String}
      {response : HttpResponse} : 500 ≤ response.statusCode →
      Wired session request writes wire (.request method path token) (.ok response)
        { wire with world := executed session request wire.world }
  | lost {wire : Wire} {method path : String} {token : Option String} {error : Error} :
      error = .connection ∨ error = .timeout →
      Wired session request writes wire (.request method path token) (.error error)
        { wire with world := executed session request wire.world }
  | declined {wire : Wire} {method path : String} {token : Option String}
      {response : HttpResponse} : Declines response →
      Wired session request writes wire (.request method path token) (.ok response) wire
  | unreached {wire : Wire} {method path : String} {token : Option String} {error : Error} :
      error = .connection ∨ error = .timeout →
      Wired session request writes wire (.request method path token) (.error error) wire
  | login {wire : Wire} {answer : Except Error HttpResponse} : ExchangeAnswers answer →
      Wired session request writes wire .postLogin answer wire
  | refresh {wire : Wire} {refreshToken : String} {answer : Except Error HttpResponse} :
      ExchangeAnswers answer →
      Wired session request writes wire (.postRefresh refreshToken) answer wire
  | getAccess {wire : Wire} :
      Wired session request writes wire .getAccessToken (.ok wire.accessToken) wire
  | getRefresh {wire : Wire} :
      Wired session request writes wire .getRefreshToken (.ok wire.refreshToken) wire
  | setAccess {wire : Wire} {token : Option String} :
      Wired session request writes wire (.setAccessToken token) (.ok ())
        { wire with accessToken := token }
  | setRefresh {wire : Wire} {token : Option String} :
      Wired session request writes wire (.setRefreshToken token) (.ok ())
        { wire with refreshToken := token }
  | sleep {wire : Wire} {seconds : Nat} :
      Wired session request writes wire (.sleep seconds) (.ok ()) wire

/-- An error that does not come from what the cluster made of the request: nothing arrived, the
response was declined, or the token could not be renewed. -/
inductive Undelivered (path : String) : Error → Prop where
  | connection : Undelivered path .connection
  | timeout : Undelivered path .timeout
  | declined {response : HttpResponse} {error : Error} : Declines response →
      responseError response path = some error → Undelivered path error
  | loginRefused {response : HttpResponse} {error : Error} :
      responseError response "/login" = some error → Undelivered path error
  | lockedOut (text : String) : Undelivered path (.api (.generic 403 ("/login: " ++ text)))
  | noToken : Undelivered path (.value "access_token")

private theorem undelivered_of_lost {path : String} {error : Error}
    (lost : error = .connection ∨ error = .timeout) : Undelivered path error := by
  rcases lost with rfl | rfl
  · exact .connection
  · exact .timeout

section Sending

variable {classes : CharClasses} {session : Session} {request : Request}
  {writes : request.Reply → HttpResponse → Prop} {method path : String} {start : World}
  {wire : Wire}

/-- The request was executed once, or not at all. -/
def AtMostOnce (session : Session) (request : Request) (start : World) (wire : Wire) : Prop :=
  wire.world = start ∨ wire.world = executed session request start

private theorem executed_executed (session : Session) (request : Request) (w : World) :
    executed session request (executed session request w) = executed session request w :=
  congrArg (fun cluster => { w with cluster }) (Cluster.answer_again session request w.cluster)

/-- Executing the request again leaves the world as executing it once. -/
theorem AtMostOnce.executed (once : AtMostOnce session request start wire) :
    WekaShareDriver.executed session request wire.world =
      WekaShareDriver.executed session request start := by
  rcases once with same | same <;> rw [same]
  exact executed_executed session request start

/-- What a response says of the request: what the cluster answers to it now or answered at first,
or nothing. -/
inductive Received (writes : request.Reply → HttpResponse → Prop) (session : Session)
    (path : String) (start : World) (wire : Wire) (response : HttpResponse) : Prop where
  | carried {asked : World} : asked = start ∨ asked = executed session request start →
      wire.world = executed session request start →
      Carries writes path response (respond (.api session request) asked).1 →
      Received writes session path start wire response
  | declined : AtMostOnce session request start wire → Declines response →
      Received writes session path start wire response

/-- Whatever was received, the request was executed once at most. -/
theorem Received.once {response : HttpResponse}
    (received : Received writes session path start wire response) :
    AtMostOnce session request start wire := by
  cases received with
  | carried _ now _ => exact Or.inr now
  | declined once _ => exact once

/-- A request that is sent is executed at most once, counting what was sent before. -/
theorem wp_sendRequest (once : AtMostOnce session request start wire) :
    (sendRequest method path).wp (Wired session request writes) (passing fun _ => True)
      (ending (fun response wire' => Received writes session path start wire' response)
        fun error wire' => AtMostOnce session request start wire' ∧ Undelivered path error)
      wire := by
  unfold sendRequest
  refine wp_bind_of (fun _ wire' => AtMostOnce session request start wire') ?_ ?_
  · rw [onServer, wp_perform]
    intro answer wire' answered
    cases answered
    exact ⟨trivial, once⟩
  · intro token wire once
    rw [onServer, wp_perform]
    intro answer wire' answered
    cases answered with
    | answered carries => exact ⟨trivial, .carried once once.executed carries⟩
    | failed failed =>
        exact ⟨trivial, .declined (Or.inr once.executed) (Or.inr (Or.inr (Or.inr failed)))⟩
    | lost lost => exact ⟨trivial, Or.inr once.executed, undelivered_of_lost lost⟩
    | declined declines => exact ⟨trivial, .declined once declines⟩
    | unreached lost => exact ⟨trivial, once, undelivered_of_lost lost⟩

/-- What does not touch the world: the renewal of the token, which may fail. -/
def Renews (session : Session) (request : Request)
    (writes : request.Reply → HttpResponse → Prop) (path : String) {α : Type}
    (program : Client α) : Prop :=
  ∀ wire, program.wp (Wired session request writes) (passing fun _ => True)
    (ending (fun _ wire' => wire'.world = wire.world)
      fun error wire' => wire'.world = wire.world ∧ Undelivered path error) wire

namespace Renews

/-- Returning does not touch the world. -/
theorem pure {α : Type} (value : α) : Renews session request writes path (pure value) :=
  fun _ => rfl

/-- Raising what the cluster has not said does not touch the world. -/
theorem throw {α : Type} {error : Error} (undelivered : Undelivered path error) :
    Renews session request writes path (throw error : Client α) :=
  fun _ => ⟨rfl, undelivered⟩

/-- Programs that do not touch the world do not do so one after the other. -/
theorem bind {α β : Type} {program : Client α} {rest : α → Client β}
    (first : Renews session request writes path program)
    (second : ∀ value, Renews session request writes path (rest value)) :
    Renews session request writes path (program >>= rest) := by
  intro wire
  refine wp_bind_of _ (first wire) fun value wire' same => ?_
  have later := second value wire'
  rwa [same] at later

/-- A program and its handler that do not touch the world do not do so together. -/
theorem tryCatch {α : Type} {program : Client α} {handler : Error → Client α}
    (first : Renews session request writes path program)
    (second : ∀ error, Renews session request writes path (handler error)) :
    Renews session request writes path (tryCatch program handler) := by
  intro wire
  refine wp_tryCatch_of _ (first wire) fun error wire' caught => ?_
  have later := second error wire'
  rwa [caught.1] at later

/-- An operation that is not the request. -/
theorem perform {op : ClientOp} (kept : ∀ wire answer wire',
    Wired session request writes wire op answer wire' → wire'.world = wire.world ∧
      ∀ error, answer = .error error → error = .connection ∨ error = .timeout) :
    Renews session request writes path (onServer op) := by
  intro wire
  rw [onServer, wp_perform]
  intro answer wire' answered
  obtain ⟨same, lost⟩ := kept wire answer wire' answered
  cases answer with
  | ok value => exact ⟨trivial, same⟩
  | error error => exact ⟨trivial, same, undelivered_of_lost (lost error rfl)⟩

end Renews

/-- An operation that stays with the client. -/
def ClientOp.local : ClientOp → Bool
  | .request .. => false
  | .postLogin => false
  | .postRefresh _ => false
  | _ => true

private theorem renews_local {op : ClientOp} (stays : op.local = true) :
    Renews session request writes path (onServer op) :=
  .perform fun _ _ _ answered => by
    cases answered with
    | getAccess | getRefresh | setAccess | setRefresh | sleep =>
        exact ⟨rfl, fun _ impossible => by cases impossible⟩
    | _ => cases stays

private theorem renews_answerLogin (response : HttpResponse) :
    Renews session request writes path (answerLogin classes response) := by
  unfold answerLogin
  split
  · exact (renews_local rfl).bind fun _ => .throw (.lockedOut response.text)
  · refine .bind ?_ fun _ => ?_
    · unfold raiseForStatus
      cases raised : responseError response "/login" with
      | none => exact .pure ()
      | some error => exact .throw (.loginRefused raised)
    · cases response.accessToken with
      | none => exact .throw .noToken
      | some token => exact (renews_local rfl).bind fun _ => renews_local rfl

private theorem renews_doLogin : Renews session request writes path (doLogin classes) := by
  refine .bind (.perform fun wire answer wire' answered => ?_) renews_answerLogin
  cases answered with
  | login exchange => exact ⟨rfl, exchange⟩

private theorem renews_refreshTokens (refreshToken : String) :
    Renews session request writes path (refreshTokens refreshToken) := by
  unfold refreshTokens
  refine .bind (.perform fun wire answer wire' answered => ?_) fun response => ?_
  · cases answered with
    | refresh exchange => exact ⟨rfl, exchange⟩
  · split
    · cases response.accessToken with
      | none => exact .throw .noToken
      | some token =>
          refine (renews_local rfl).bind fun _ => ?_
          cases response.refreshToken with
          | none => exact .pure true
          | some token => exact (renews_local rfl).bind fun _ => .pure true
    · exact .pure false

private theorem renews_refreshOrLogin :
    Renews session request writes path (refreshOrLogin classes) := by
  unfold refreshOrLogin
  refine .bind (renews_local rfl) fun stored => ?_
  cases stored.filter (· ≠ "") with
  | none => exact renews_doLogin
  | some refreshToken =>
      refine .bind ((renews_refreshTokens refreshToken).tryCatch fun _ => .pure false)
        fun refreshed => ?_
      cases refreshed with
      | true => exact .pure ()
      | false => exact renews_doLogin

/-- What a request that returned has done: it was executed, and the response carries what the
cluster answered, for a create at its only execution. -/
def Done (session : Session) (request : Request) (writes : request.Reply → HttpResponse → Prop)
    (start : World) (response : HttpResponse) (wire : Wire) : Prop :=
  wire.world = executed session request start ∧
    ∃ reply, writes reply response ∧
      ((respond (.api session request) start).1 = .ok reply ∨
        request.isCreate = false ∧ (respond (.api session request) wire.world).1 = .ok reply)

/-- What a request that failed has done: the cluster refuses it as things are now, or nothing is
known but that it was executed at most once. -/
def Failed (session : Session) (request : Request) (path : String) (start : World) (error : Error)
    (wire : Wire) : Prop :=
  AtMostOnce session request start wire ∧
    (respond (.api session request) wire.world = (.error error, wire.world) ∨
      Undelivered path error)

/-- A request that was executed is answered by what the cluster says of it now. -/
theorem respond_executed {error : Error} {asked : World}
    (asked' : asked = start ∨ asked = executed session request start)
    (refused : (respond (.api session request) asked).1 = .error error) :
    respond (.api session request) (executed session request start) =
      (.error error, executed session request start) := by
  have kept := respond_refused refused
  rcases asked' with rfl | rfl
  · have same : executed session request asked = asked := congrArg Prod.snd kept
    rwa [same]
  · exact kept

/-- A create that was executed is not executed when it is repeated. -/
theorem reply_of_executed (creates : request.isCreate = true) {reply : request.Reply}
    (replied : (respond (.api session request) (executed session request start)).1 = .ok reply) :
    (respond (.api session request) start).1 = .ok reply := by
  cases first : (respond (.api session request) start).1 with
  | ok reply' =>
      cases raw : (start.cluster.answer session request).1 with
      | ok reply' =>
          obtain ⟨error, refused⟩ := Cluster.refused_again creates raw
          change asRaised ((start.cluster.answer session request).2.answer session request).1 = _
            at replied
          rw [refused] at replied
          cases replied
      | error error =>
          change asRaised (start.cluster.answer session request).1 = _ at first
          rw [raw] at first
          cases first
  | error error =>
      have same : executed session request start = start :=
        congrArg Prod.snd (respond_refused first)
      rw [same, first] at replied
      cases replied

/-- What is returned or raised for a response. -/
theorem wp_check {response : HttpResponse}
    (received : Received writes session path start wire response) :
    (do
      raiseForStatus response path
      return response : Client HttpResponse).wp (Wired session request writes)
        (passing fun _ => True)
        (ending (Done session request writes start) (Failed session request path start)) wire := by
  cases raised : responseError response path with
  | none =>
      rw [raiseForStatus, raised]
      cases received with
      | @carried asked asked' now carries =>
          cases answer : (respond (.api session request) asked).1 with
          | ok reply =>
              rw [answer] at carries
              refine ⟨now, reply, carries.2, ?_⟩
              rcases asked' with rfl | rfl
              · exact Or.inl answer
              · rcases Bool.eq_false_or_eq_true request.isCreate with creates | reads
                · exact Or.inl (reply_of_executed creates answer)
                · exact Or.inr ⟨reads, now ▸ answer⟩
          | error error =>
              rw [answer] at carries
              rw [Carries, raised] at carries
              cases carries
      | declined once declines =>
          have above : ¬ response.statusCode < 400 := by
            rcases declines with status | status | status | status <;> omega
          obtain ⟨error, some', _⟩ := matches_responseError path above
          rw [raised] at some'
          cases some'
  | some error =>
      rw [raiseForStatus, raised]
      cases received with
      | @carried asked asked' now carries =>
          refine ⟨Or.inr now, Or.inl ?_⟩
          cases answer : (respond (.api session request) asked).1 with
          | ok reply =>
              rw [answer] at carries
              rw [responseError_of_lt carries.1] at raised
              cases raised
          | error refusal =>
              rw [answer, Carries, raised] at carries
              rw [Option.some.inj carries, now]
              exact respond_executed asked' answer
      | declined once declines => exact ⟨once, Or.inr (.declined declines raised)⟩

/-- One attempt, with all that was sent before it. -/
theorem wp_attemptRequest (once : AtMostOnce session request start wire) :
    (attemptRequest classes method path).wp (Wired session request writes) (passing fun _ => True)
      (ending (Done session request writes start) (Failed session request path start)) wire := by
  have undelivered {error : Error} {wire : Wire}
      (failed : AtMostOnce session request start wire ∧ Undelivered path error) :
      Failed session request path start error wire := ⟨failed.1, Or.inr failed.2⟩
  unfold attemptRequest
  refine wp_bind_of (fun response wire' => Received writes session path start wire' response)
    (wp_weaken (wp_sendRequest once) (fun _ => id) (fun _ _ => id) fun _ _ => undelivered) ?_
  intro first wire received
  by_cases expired : first.statusCode = 401
  · rw [if_pos expired]
    refine wp_bind_of (fun _ wire' => AtMostOnce session request start wire') ?_ ?_
    · refine wp_weaken (renews_refreshOrLogin wire) (fun _ => id) (fun _ wire' same => ?_)
        fun error wire' failed => undelivered ⟨?_, failed.2⟩
      · rw [AtMostOnce, same]
        exact received.once
      · rw [AtMostOnce, failed.1]
        exact received.once
    · intro _ wire once
      refine wp_bind_of (fun response wire' => Received writes session path start wire' response)
        (wp_weaken (wp_sendRequest once) (fun _ => id) (fun _ _ => id) fun _ _ => undelivered) ?_
      exact fun response wire received => wp_check received
  · rw [if_neg expired]
    exact wp_check received

private theorem wp_requestLoop (delay : Nat) {retries : Nat}
    (once : AtMostOnce session request start wire) :
    (requestLoop classes method path delay retries).wp (Wired session request writes)
      (passing fun _ => True)
      (ending (Done session request writes start) (Failed session request path start)) wire := by
  induction retries generalizing delay wire with
  | zero => exact wp_attemptRequest once
  | succ retries ih =>
      refine wp_tryCatch_of _ (wp_attemptRequest once) fun error wire failed => ?_
      rw [wp_ite]
      split
      · refine wp_bind_of (fun _ wire' => AtMostOnce session request start wire') ?_
          fun _ wire once => ih (2 * delay) once
        rw [onServer, wp_perform]
        intro answer wire' answered
        cases answered
        exact ⟨trivial, failed.1⟩
      · exact failed

/-- However often the client sends a request, and whatever is lost on the way, the cluster is left
as by one execution of it or untouched. A request that returns was executed, and a create returns
what its only execution was answered. An error is what the cluster refuses the request with as
things are now, or it is not the cluster's word on it. -/
theorem request_at_most_once {maxRetries : Nat} {s t : Wire}
    {outcome : Except Error HttpResponse}
    (run : Program.Exec (Wired session request writes)
      (WekaShareDriver.request classes method path maxRetries) s outcome t) :
    (t.world = s.world ∨ t.world = executed session request s.world) ∧
    (∀ response, outcome = .ok response → t.world = executed session request s.world ∧
      ∃ reply, writes reply response ∧
        ((respond (.api session request) s.world).1 = .ok reply ∨
          request.isCreate = false ∧ (respond (.api session request) t.world).1 = .ok reply)) ∧
    ∀ error, outcome = .error error →
      respond (.api session request) t.world = (.error error, t.world) ∨
        Undelivered path error := by
  have ended := run.post (wp_requestLoop 1 (Or.inl rfl))
  cases outcome with
  | ok response =>
      refine ⟨Or.inr ended.1, ?_, ?_⟩
      · intro _ same
        cases same
        exact ended
      · intro _ impossible
        cases impossible
  | error error =>
      refine ⟨ended.1, ?_, ?_⟩
      · intro _ impossible
        cases impossible
      · intro _ same
        cases same
        exact ended.2

end Sending

/-- A wire to a cluster without any object. -/
def emptyWire : Wire := ⟨⟨.empty, .empty⟩, none, none⟩

/-- The wire after a client group was created. -/
def createdWire : Wire :=
  { emptyWire with world := executed .admin (.createClientGroup "clients") emptyWire.world }

/-- The answer to a create that is repeated. -/
def conflictResponse : HttpResponse := ⟨409, "", "already exists", none, none⟩

/-- The response to the creation of a client group is lost, and the create repeated. -/
theorem request_at_most_once_repeated :
    ∃ t, Program.Exec (Wired .admin (.createClientGroup "clients") fun _ _ => True)
        (request asciiClasses "POST" "/nfs/clientGroups" 1) emptyWire
        (.error (.api (.conflict "/nfs/clientGroups: already exists"))) t ∧
      (t.world = emptyWire.world ∨
        t.world = executed .admin (.createClientGroup "clients") emptyWire.world) := by
  have first : Program.Exec (Wired .admin (.createClientGroup "clients") fun _ _ => True)
      (attemptRequest asciiClasses "POST" "/nfs/clientGroups") emptyWire (.error .connection)
      createdWire :=
    .call .getAccess (.call (.lost (Or.inl rfl)) (.fail _ _))
  have refused : Carries (fun (_ : (Request.createClientGroup "clients").Reply) _ => True)
      "/nfs/clientGroups" conflictResponse
      (respond (.api .admin (.createClientGroup "clients")) createdWire.world).1 := rfl
  have second : Program.Exec (Wired .admin (.createClientGroup "clients") fun _ _ => True)
      (attemptRequest asciiClasses "POST" "/nfs/clientGroups") createdWire
      (.error (.api (.conflict "/nfs/clientGroups: already exists")))
      { createdWire with
        world := executed .admin (.createClientGroup "clients") createdWire.world } :=
    .call .getAccess (.call (.answered refused) (.fail _ _))
  have run : Program.Exec (Wired .admin (.createClientGroup "clients") fun _ _ => True)
      (request asciiClasses "POST" "/nfs/clientGroups" 1) emptyWire
      (.error (.api (.conflict "/nfs/clientGroups: already exists")))
      { createdWire with
        world := executed .admin (.createClientGroup "clients") createdWire.world } :=
    first.tryCatch_error (Program.Exec.bind (.perform Wired.sleep) second)
  exact ⟨_, run, (request_at_most_once run).1⟩

end WekaShareDriver
