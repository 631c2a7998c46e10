import Mathlib
import BrokerTrial.Broker.Errand
import BrokerTrial.Proofs.Broker.Body
import BrokerTrial.Proofs.Broker.Correspondence
import BrokerTrial.Proofs.Http

/-!
# Calls are attempted once

A call to a broker asks for one token and makes one request with it, and what the reply says decides how it
comes out. Nothing is tried again.
-/

namespace BrokerTrial

namespace Call

/-- The replies that mean success, and what they say. -/
inductive Answered : Call → Http.Reply → Upshot → Prop where
  | subscribed {url : String} {r : Http.Reply} {id : SubscriptionId} (status : r.status = 201)
      (whole : r.complete = true)
      (read : (Json.read r.body).as (fun d =>
        (d.record "SubscriptionResponse" Endpoint.subscriptionFields).map fun (id, _) => ⟨id⟩) = .ok id) :
      Answered (.subscribe url) r (.subscription id)
  | unsubscribed {old : SubscriptionId} {r : Http.Reply} (status : r.status = 204) :
      Answered (.unsubscribe old) r .done
  | discovered {r : Http.Reply} {id : NodeId} (status : r.status = 200) (whole : r.complete = true)
      (read : (Json.read r.body).as (fun d =>
        (d.record "ParticipantResponse" Endpoint.participantFields).map fun (id, _) => ⟨id⟩) = .ok id) :
      Answered .discover r (.node id)
  | sent {target : Target} {m : Message} {r : Http.Reply} (status : r.status = 202) :
      Answered (.send target m) r .done

theorem Answered.status_eq {c : Call} {r : Http.Reply} {u : Upshot} (h : c.Answered r u) :
    r.status = c.success := by
  cases h <;> assumption

theorem Answered.unique {c : Call} {r : Http.Reply} {u v : Upshot} (h : c.Answered r u)
    (again : c.Answered r v) : u = v := by
  cases h with
  | subscribed _ _ read =>
    cases again with
    | subscribed _ _ same => rw [Except.ok.inj (read.symm.trans same)]
  | unsubscribed => cases again; rfl
  | discovered _ _ read =>
    cases again with
    | discovered _ _ same => rw [Except.ok.inj (read.symm.trans same)]
  | sent => cases again; rfl

end Call

namespace Endpoint

variable {e : Endpoint} {a : AnalysisId} {c : Call}

/-- The request of a call: where and how it is made, with which token, and what its receiver reads in it. -/
structure Carries (e : Endpoint) (a : AnalysisId) (c : Call) (token : String) (request : Http.Request) :
    Prop where
  content : match c with
    | .subscribe _ | .send _ _ => request.method = .post ∧
        request.contentType = some "application/json" ∧ Call.ofBody? request.body = some c
    | .unsubscribe _ => request.method = .delete ∧ request.contentType = none ∧ request.body = ""
    | .discover => request.method = .get ∧ request.contentType = none ∧ request.body = ""
  url : Url.parse (c.url e.baseUrl a) = .ok request.url
  authorization : request.authorization = some ("Bearer " ++ token)

/-- How a call comes out once its request is made. -/
inductive Comes (e : Endpoint) (c : Call) (address : String) :
    Except (List String) Http.Reply → Except BrokerError Upshot → Prop where
  | unanswered (causes : List String) :
      Comes e c address (.error causes) (.error (.request c.operation e.baseUrl (.unanswered address causes)))
  | unexpected {r : Http.Reply} (other : r.status ≠ c.success) :
      Comes e c address (.ok r) (.error (.unexpectedStatus c.operation e.baseUrl r.status
        (if r.complete then Text.lossy r.body else "")))
  | unread {r : Http.Reply} (status : r.status = c.success) (none : ∀ u, ¬ c.Answered r u)
      (misread : Option Json.Misreading) (body : ∀ x ∈ misread, x.text = r.body) :
      Comes e c address (.ok r) (.error (.undecodable c.operation e.baseUrl (.unreadableBody misread)))
  | answered {r : Http.Reply} {u : Upshot} (answered : c.Answered r u) :
      Comes e c address (.ok r) (.ok u)

/-- How a call goes: there is no token, or no request for it, or one request is made. -/
inductive Went (e : Endpoint) (a : AnalysisId) (c : Call) (h : Conduct) : Prop where
  | unauthorized (err : TokenError) (deeds : h.deeds = [.asked (.error err)])
      (result : h.result = .error (.token err))
  | unbuilt (token : String) (f : Http.Failure) (deeds : h.deeds = [.asked (.ok token)])
      (fails : (e.draft a c token).Unbuildable f) (result : h.result = .error (.request c.operation e.baseUrl f))
  | sent (token : String) (request : Http.Request) (x : Http.Exchange)
      (deeds : h.deeds = [.asked (.ok token), .sent request x]) (carries : e.Carries a c token request)
      (comes : e.Comes c request.url.text x.outcome h.result)

/-- How a check of readiness goes, which takes no token. -/
inductive Checked (e : Endpoint) (h : Conduct) : Prop where
  | unbuilt (f : Http.Failure) (deeds : h.deeds = [])
      (fails : Http.Draft.Unbuildable { method := .get, url := e.readinessUrl } f)
      (result : h.result = .error (.request "readiness check" e.baseUrl f))
  | sent (request : Http.Request) (x : Http.Exchange) (deeds : h.deeds = [.sent request x])
      (method : request.method = .get) (url : Url.parse e.readinessUrl = .ok request.url)
      (authorization : request.authorization = none)
      (result : h.result = match x.outcome with
        | .error causes => .error (.request "readiness check" e.baseUrl (.unanswered request.url.text causes))
        | .ok r => .ok (.ready (r.status == 200)))

/-- An errand that is run as it should be. -/
def Conducted (e : Endpoint) (h : Conduct) : Prop :=
  match h.errand with
  | .call a c => e.Went a c h ∧
      ∀ u, h.result = .ok u ↔ ∃ token request x r,
        h.deeds = [.asked (.ok token), .sent request x] ∧ x.outcome = .ok r ∧ c.Answered r u
  | .readiness => e.Checked h

/-! ### One call -/

theorem carries_of_builds {token : String} {request : Http.Request}
    (builds : (e.draft a c token).Builds request) : e.Carries a c token request := by
  refine ⟨?_, builds.url, builds.authorization⟩
  cases c with
  | subscribe url =>
    exact ⟨builds.method, builds.contentType, builds.body ▸ Call.ofBody?_body rfl⟩
  | unsubscribe old => exact ⟨builds.method, builds.contentType, builds.body⟩
  | discover => exact ⟨builds.method, builds.contentType, builds.body⟩
  | send target m =>
    refine ⟨builds.method, ?_, ?_⟩
    · rw [builds.contentType]
      cases target <;> rfl
    · rw [builds.body]
      cases target <;> exact Call.ofBody?_body rfl

/-- What the reply to a call that succeeded stands for. -/
def interpret (e : Endpoint) : Call → Http.Reply → Except BrokerError Upshot
  | .subscribe url, r =>
    (e.decoded (.subscribe url) "SubscriptionResponse" (fun d => (d.record "SubscriptionResponse" subscriptionFields).map
      fun (id, _) => SubscriptionId.mk id) r).map .subscription
  | .discover, r =>
    (e.decoded .discover "ParticipantResponse" (fun d => (d.record "ParticipantResponse" participantFields).map
      fun (id, _) => NodeId.mk id) r).map .node
  | .unsubscribe _, _ | .send _ _, _ => .ok .done

theorem decoded_cases {β : Type} (e : Endpoint) (c : Call) (record : String)
    (f : Json.Doc → Except Json.Problem β) (r : Http.Reply) :
    (∃ v, e.decoded c record f r = .ok v ∧ r.complete = true ∧ (Json.read r.body).as f = .ok v) ∨
      ∃ misread : Option Json.Misreading, (∀ x ∈ misread, x.text = r.body) ∧
        e.decoded c record f r = .error (.undecodable c.operation e.baseUrl (.unreadableBody misread)) ∧
        ∀ v, ¬ (r.complete = true ∧ (Json.read r.body).as f = .ok v) := by
  unfold decoded
  cases whole : r.complete with
  | false =>
    right
    refine ⟨none, by simp, rfl, ?_⟩
    rintro v ⟨absurd, -⟩
    cases absurd
  | true =>
    cases read : (Json.read r.body).as f with
    | ok v => exact Or.inl ⟨v, rfl, rfl, rfl⟩
    | error p =>
      right
      refine ⟨some ⟨record, r.body, p⟩, by simp, rfl, ?_⟩
      rintro v ⟨-, absurd⟩
      cases absurd

theorem comes_interpret {r : Http.Reply} (status : r.status = c.success) (address : String) :
    e.Comes c address (.ok r) (e.interpret c r) := by
  cases c with
  | subscribe url =>
    obtain ⟨id, decoded, whole, read⟩ | ⟨misread, body, failed, none⟩ := e.decoded_cases (.subscribe url) _
      (fun d => (d.record "SubscriptionResponse" subscriptionFields).map fun (id, _) => SubscriptionId.mk id) r
    · rw [interpret, decoded]
      exact .answered (.subscribed status whole read)
    · rw [interpret, failed]
      refine .unread status ?_ misread body
      intro u answered
      cases answered with
      | subscribed status whole read => exact none _ ⟨whole, read⟩
  | unsubscribe old => exact .answered (.unsubscribed status)
  | discover =>
    obtain ⟨id, decoded, whole, read⟩ | ⟨misread, body, failed, none⟩ := e.decoded_cases .discover _
      (fun d => (d.record "ParticipantResponse" participantFields).map fun (id, _) => NodeId.mk id) r
    · rw [interpret, decoded]
      exact .answered (.discovered status whole read)
    · rw [interpret, failed]
      refine .unread status ?_ misread body
      intro u answered
      cases answered with
      | discovered status whole read => exact none _ ⟨whole, read⟩
  | send target m => exact .answered (.sent status)

theorem comes_received (request : Http.Request) (x : Http.Exchange) :
    e.Comes c request.url.text x.outcome
      ((((x.received request).mapError (.request c.operation e.baseUrl)).bind (e.expected c)).bind
        (e.interpret c)) := by
  unfold Http.Exchange.received
  cases x.outcome with
  | error causes => exact .unanswered causes
  | ok r =>
    change e.Comes c request.url.text (.ok r) ((e.expected c r).bind (e.interpret c))
    unfold expected
    split
    · rename_i status
      exact comes_interpret status request.url.text
    · rename_i other
      exact .unexpected other

theorem Comes.ok_iff {address : String} {outcome : Except (List String) Http.Reply}
    {result : Except BrokerError Upshot} (h : e.Comes c address outcome result) (u : Upshot) :
    result = .ok u ↔ ∃ r, outcome = .ok r ∧ c.Answered r u := by
  constructor
  · intro ok
    cases h with
    | unanswered | unexpected | unread => cases ok
    | answered answered =>
      cases ok
      exact ⟨_, rfl, answered⟩
  · rintro ⟨r, came, answered⟩
    cases h with
    | unanswered => cases came
    | unexpected other =>
      cases came
      exact absurd answered.status_eq other
    | unread status none =>
      cases came
      exact absurd answered (none u)
    | answered again =>
      cases came
      rw [again.unique answered]

variable {σ α : Type} [TokenClient α σ] {link : Http.Link σ} {client : α} {s after : Session σ}

theorem call_of_refused {err : TokenError} (asked : TokenClient.token client link s = (.error err, after)) :
    e.call link client a c s = (.error (.token err), after) := by
  simp only [call, asked]

theorem call_of_unbuilt {token : String} {f : Http.Failure}
    (asked : TokenClient.token client link s = (.ok token, after))
    (fails : (e.draft a c token).build = .error f) :
    e.call link client a c s = (.error (.request c.operation e.baseUrl f), after) := by
  simp only [call, asked, Session.transmit_of_error fails]

theorem call_of_built {token : String} {request : Http.Request}
    (asked : TokenClient.token client link s = (.ok token, after))
    (built : (e.draft a c token).build = .ok request) :
    e.call link client a c s =
      ((((link request e.timeout.ceilMillis after.link).1.received request).mapError
          (.request c.operation e.baseUrl)).bind (e.expected c),
        { after with
          link := (link request e.timeout.ceilMillis after.link).2
          now := after.now + (link request e.timeout.ceilMillis after.link).1.takes }) := by
  simp only [call, asked, Session.transmit_of_ok built]
  cases (link request e.timeout.ceilMillis after.link).1.received request <;> rfl

theorem perform_call (e : Endpoint) (link : Http.Link σ) (client : α) (s : Session σ) (a : AnalysisId)
    (c : Call) :
    e.perform link client s (.call a c) =
      ((e.call link client a c s).1.bind (e.interpret c), (e.call link client a c s).2) := by
  cases c <;> simp only [perform, subscribe, unsubscribe, discover, send, Prod.map, id]
  all_goals cases (e.call link client a _ s).1 <;> rfl

theorem isReady_of_unbuilt {f : Http.Failure}
    (fails : Http.Draft.build { method := .get, url := e.readinessUrl } = .error f) :
    e.isReady link s = (.error (.request "readiness check" e.baseUrl f), s) := by
  simp only [isReady, Session.transmit_of_error fails]

theorem isReady_of_built {request : Http.Request}
    (built : Http.Draft.build { method := .get, url := e.readinessUrl } = .ok request) :
    e.isReady link s =
      ((((link request e.timeout.ceilMillis s.link).1.received request).mapError
          (.request "readiness check" e.baseUrl)).map (·.status == 200),
        { s with
          link := (link request e.timeout.ceilMillis s.link).2
          now := s.now + (link request e.timeout.ceilMillis s.link).1.takes }) := by
  simp only [isReady, Session.transmit_of_ok built]
  cases (link request e.timeout.ceilMillis s.link).1.received request <;> rfl

/-! ### One errand with what is done for it -/

theorem token_noted (client : α) (link : Http.Link σ) (s : Session σ) :
    TokenClient.token (NotedClient.mk client link) link.noted (s.over (s.link, [])) =
      ((TokenClient.token client link s).1,
        (TokenClient.token client link s).2.over
          ((TokenClient.token client link s).2.link, [.asked (TokenClient.token client link s).1])) := rfl

theorem noted_corresponds (link : Http.Link σ) :
    link.noted.Corresponds link Eq fun s s' => s.1 = s' where
  url same := congrArg Http.Request.url same
  outcome := by
    rintro r _ s _ rfl rfl limit
    rfl
  after := by
    rintro r _ s _ rfl rfl limit
    rfl

/-- Notes change nothing about an errand. -/
theorem conduct_eq (e : Endpoint) (link : Http.Link σ) (client : α) (s : Session σ) (x : Errand) :
    ((e.conduct link client s x).1.result, (e.conduct link client s x).2) = e.perform link client s x := by
  -- a client and the same client with notes are asked for the same tokens
  have twins : Twins link.noted link (fun s s' => s.1 = s') Eq (NotedClient.mk client link) client := by
    rintro s ⟨_, _, _⟩ ⟨rfl, rfl, rfl⟩
    exact ⟨_, _, _, _, rfl, rfl, .refl _, rfl, rfl, rfl⟩
  have drafts (a : AnalysisId) (c : Call) : e.Drafts a c Eq Eq := by
    rintro t _ rfl
    exact Http.Draft.corresponds_self fun _ _ => rfl
  obtain ⟨result, t, t', noted, plain, after⟩ := perform_meet (noted_corresponds link) twins drafts
    (Http.Draft.corresponds_self fun _ _ => rfl) (⟨rfl, rfl, rfl⟩ : (s.over (s.link, [])).Alike _ s) x
  rw [plain, conduct, noted, ← after.over_eq]

theorem conduct_went (e : Endpoint) (link : Http.Link σ) (client : α) (s : Session σ) (a : AnalysisId)
    (c : Call) : e.Went a c (e.conduct link client s (.call a c)).1 := by
  have noted := token_noted client link s
  cases asked : TokenClient.token client link s with
  | mk result after =>
    rw [asked] at noted
    dsimp only at noted
    cases result with
    | error err =>
      refine .unauthorized err ?_ ?_ <;> simp only [conduct, perform_call, call_of_refused noted] <;> rfl
    | ok token =>
      obtain ⟨f, fails, why⟩ | ⟨request, built, builds⟩ := (e.draft a c token).build_cases
      · refine .unbuilt token f ?_ why ?_ <;>
          simp only [conduct, perform_call, call_of_unbuilt noted fails] <;> rfl
      · refine .sent token request (link request e.timeout.ceilMillis after.link).1 ?_
          (carries_of_builds builds) ?_
        · simp only [conduct, perform_call, call_of_built noted built]
          rfl
        · simp only [conduct, perform_call, call_of_built noted built]
          exact comes_received request _

theorem Went.ok_iff {h : Conduct} (went : e.Went a c h) (u : Upshot) :
    h.result = .ok u ↔ ∃ token request x r,
      h.deeds = [.asked (.ok token), .sent request x] ∧ x.outcome = .ok r ∧ c.Answered r u := by
  cases went with
  | unauthorized err deeds result => simp [deeds, result]
  | unbuilt token f deeds fails result => simp [deeds, result]
  | sent token request x deeds carries comes =>
    rw [comes.ok_iff u, deeds]
    constructor
    · rintro ⟨r, came, answered⟩
      exact ⟨token, request, x, r, rfl, came, answered⟩
    · rintro ⟨_, _, _, r, same, came, answered⟩
      cases same
      exact ⟨r, came, answered⟩

theorem conduct_checked (e : Endpoint) (link : Http.Link σ) (client : α) (s : Session σ) :
    e.Checked (e.conduct link client s .readiness).1 := by
  obtain ⟨f, fails, why⟩ | ⟨request, built, builds⟩ :=
    Http.Draft.build_cases { method := .get, url := e.readinessUrl }
  · refine .unbuilt f ?_ why ?_ <;> simp only [conduct, perform, isReady_of_unbuilt fails] <;> rfl
  · refine .sent request (link request e.timeout.ceilMillis s.link).1 ?_ builds.method builds.url
      builds.authorization ?_
    · simp only [conduct, perform, isReady_of_built built]
      rfl
    · simp only [conduct, perform, isReady_of_built built]
      change Except.map _ (Except.map _ (Except.mapError _
        ((link request e.timeout.ceilMillis s.link).1.received request))) = _
      unfold Http.Exchange.received
      cases (link request e.timeout.ceilMillis s.link).1.outcome <;> rfl

theorem conduct_conducted (e : Endpoint) (link : Http.Link σ) (client : α) (s : Session σ) (x : Errand) :
    e.Conducted (e.conduct link client s x).1 := by
  cases x with
  | call a c =>
    have went := e.conduct_went link client s a c
    exact ⟨went, went.ok_iff⟩
  | readiness => exact e.conduct_checked link client s

end Endpoint

/-- Of any token client and over any link, each call asks for one token and makes at most one request, and it
succeeds if and only if a reply comes that means success. A check of readiness takes no token. -/
theorem calls_attempted_once {σ α : Type} [TokenClient α σ] (e : Endpoint) (link : Http.Link σ) (client : α)
    (errands : List (Nat × Errand)) (s : Session σ) :
    (e.conductAll link client errands s).map (·.result) = (e.performAll link client errands s).1 ∧
      (e.conductAll link client errands s).map (·.errand) = errands.map (·.2) ∧
      ∀ h ∈ e.conductAll link client errands s, e.Conducted h := by
  induction errands generalizing s with
  | nil => exact ⟨rfl, rfl, fun h member => absurd member List.not_mem_nil⟩
  | cons first rest ih =>
    obtain ⟨wait, x⟩ := first
    have same := e.conduct_eq link client { s with now := s.now + wait } x
    have conducted := e.conduct_conducted link client { s with now := s.now + wait } x
    rw [Endpoint.conductAll, Endpoint.performAll, ← same]
    obtain ⟨results, errands, others⟩ := ih (e.conduct link client { s with now := s.now + wait } x).2
    refine ⟨?_, ?_, fun h member => ?_⟩
    · rw [List.map_cons, results]
    · rw [List.map_cons, errands]
      rfl
    · rcases List.mem_cons.mp member with here | later
      · rw [here]
        exact conducted
      · exact others h later

end BrokerTrial
