import Mathlib
import BrokerTrial.Broker.Glimpse
import BrokerTrial.Proofs.Broker.Calls
import BrokerTrial.Proofs.Broker.Correspondence

/-!
# Secrets do not show

Two clients that differ in their secret, or in their token, do the same things and print the same texts. What
differs is what they send: the form with the secret, or the header with the token.
-/

namespace BrokerTrial

variable {σ : Type} {link : Http.Link σ} {hide : Http.Request → Http.Request} {alike : σ → σ → Prop}

/-! ### Requests that are the same but for what they hide -/

/-- The requests differ in what they hide, if at all. -/
def Hiding (hide : Http.Request → Http.Request) (r r' : Http.Request) : Prop := hide r = hide r'

namespace Http

/-- Scripts with the same replies left, to which the same requests have come but for what they hide. -/
def Script.Alike (hide : Request → Request) (s s' : Script) : Prop :=
  s.replies = s'.replies ∧ s.seen.map hide = s'.seen.map hide

theorem Script.Alike.answer {s s' : Script} {r r' : Request} (h : s.Alike hide s') (same : hide r = hide r')
    (limit : Nat) : (Script.link r limit s).1 = (Script.link r' limit s').1 ∧
      Script.Alike hide (Script.link r limit s).2 (Script.link r' limit s').2 := by
  obtain ⟨replies, seen⟩ := s
  obtain ⟨_, seen'⟩ := s'
  obtain ⟨rfl, before⟩ := h
  have more : (seen ++ [r]).map hide = (seen' ++ [r']).map hide := by
    rw [List.map_append, List.map_append, before, List.map_singleton, List.map_singleton, same]
  cases replies with
  | nil => exact ⟨rfl, rfl, more⟩
  | cons first rest =>
    simp only [Script.link]
    by_cases late : limit < first.delay
    · rw [if_pos late, if_pos late]
      exact ⟨rfl, rfl, more⟩
    · by_cases close : first.close = true
      · rw [if_neg late, if_pos close, if_neg late, if_pos close]
        exact ⟨rfl, rfl, more⟩
      · rw [if_neg late, if_neg close, if_neg late, if_neg close]
        exact ⟨rfl, rfl, more⟩

/-- A script does not look at what comes. -/
theorem Script.link_corresponds (url : ∀ r, (hide r).url = r.url) :
    Script.link.Corresponds Script.link (Hiding hide) (Script.Alike hide) where
  url {r r'} same := by rw [← url r, same, url r']
  outcome same alike limit := (Script.Alike.answer alike same limit).1
  after same alike limit := (Script.Alike.answer alike same limit).2

end Http

namespace TokenSource

/-- Clients that nothing tells apart but their tokens, and these only up to `f`. -/
structure Indistinct (f : String → String) (link : Http.Link σ) (hide : Http.Request → Http.Request)
    (alike : σ → σ → Prop) (tokens : String → String → Prop) (source source' : TokenSource) : Prop where
  debugs : source.debugs = source'.debugs
  twins : Twins link link alike tokens source source'
  drafts : ∀ (e : Endpoint) a c, e.Drafts a c (Hiding hide) tokens
  shown : ∀ t t', tokens t t' → f t = f t'

namespace Indistinct

variable {f : String → String} {tokens : String → String → Prop} {source source' : TokenSource}
  {s s' : Session σ}

theorem serve (h : Indistinct f link hide alike tokens source source')
    (links : link.Corresponds link (Hiding hide) alike) (start : s.Alike alike s') (x : Task) :
    ∃ ended ended' t t', source.serve link s x = (ended, t) ∧ source'.serve link s' x = (ended', t') ∧
      ended.withToken f = ended'.withToken f ∧ ended.texts = ended'.texts ∧ t.Alike alike t' := by
  cases x with
  | token =>
    obtain ⟨r, r', t, t', one, other, corresponds, after⟩ := h.twins start
    have one : s.token link source = (r, t) := one
    have other : s'.token link source' = (r', t') := other
    simp only [TokenSource.serve, one, other]
    refine ⟨.token r, .token r', t, t', rfl, rfl, ?_, ?_, after⟩
    · cases corresponds with
      | failed e => rfl
      | had corresponds => simp only [Ended.withToken, Except.map, h.shown _ _ corresponds]
    · cases corresponds with
      | failed e => rfl
      | had corresponds => rfl
  | errand e x =>
    obtain ⟨result, t, t', one, other, after⟩ := Endpoint.perform_meet links h.twins (h.drafts e)
      (Http.Draft.corresponds_self fun _ _ => rfl) start x
    simp only [TokenSource.serve, one, other]
    exact ⟨.errand result, .errand result, t, t', rfl, rfl, rfl, rfl, after⟩

theorem serveAll (h : Indistinct f link hide alike tokens source source')
    (links : link.Corresponds link (Hiding hide) alike) (tasks : List (Nat × Task)) (start : s.Alike alike s') :
    (source.serveAll link tasks s).1.map (Glimpse.withToken f) =
        (source'.serveAll link tasks s').1.map (Glimpse.withToken f) ∧
      (source.serveAll link tasks s).2.Alike alike (source'.serveAll link tasks s').2 := by
  induction tasks generalizing s s' with
  | nil => exact ⟨rfl, start⟩
  | cons first rest ih =>
    obtain ⟨wait, x⟩ := first
    obtain ⟨ended, ended', t, t', one, other, same, texts, after⟩ := h.serve links (start.later wait) x
    obtain ⟨glimpses, later⟩ := ih after
    simp only [TokenSource.serveAll, one, other, List.map_cons]
    refine ⟨?_, later⟩
    rw [glimpses]
    simp only [Glimpse.withToken, same, texts, h.debugs]

end Indistinct

/-! ### Clients with another secret, and with another token -/

theorem formless_url (r : Http.Request) : r.formless.url = r.url := by
  unfold Http.Request.formless
  split <;> rfl

theorem issued_indistinct (links : link.Corresponds link (Hiding Http.Request.formless) alike) (i : Issuer)
    (secret : String) :
    Indistinct id link Http.Request.formless alike Eq (.issued i) (.issued { i with clientSecret := secret }) where
  debugs := rfl
  twins {s s'} h := by
    -- the secret is in the body of the form, which has no part in whether it can be sent
    have drafts : i.draft.Corresponds (Hiding Http.Request.formless) { i with clientSecret := secret }.draft :=
      Http.Draft.corresponds_of_url rfl rfl fun _ => rfl
    obtain ⟨result, t, t', one, other, after⟩ := h.token links drafts rfl
    exact ⟨result, result, t, t', one, other, .refl result, after⟩
  drafts e a c t t' same := by
    rw [same]
    exact Http.Draft.corresponds_self fun _ _ => rfl
  shown _ _ same := same

theorem fixed_indistinct {token token' : String} (valid : Http.isHeaderValue token = true)
    (valid' : Http.isHeaderValue token' = true) :
    Indistinct (fun _ => "") link Http.Request.anonymous alike (fun t t' => t = token ∧ t' = token')
      (.fixed token) (.fixed token') where
  debugs := rfl
  twins {s s'} h := ⟨_, _, s, s', rfl, rfl, .had ⟨rfl, rfl⟩, h⟩
  drafts e a c t t' tokens := by
    obtain ⟨rfl, rfl⟩ := tokens
    exact Http.Draft.corresponds_of_url rfl (valid.trans valid'.symm) fun _ => rfl
  shown _ _ _ := rfl

end TokenSource

theorem Glimpse.withToken_id (g : Glimpse) : g.withToken id = g := by
  obtain ⟨ended, texts, debugs⟩ := g
  cases ended with
  | token r => cases r <;> rfl
  | errand r => rfl

/-- Whatever clients are asked to do against the same replies, nothing that is seen of them tells a secret or a
token from another, save the form that carries the one, and the header that carries the other along with the
result that is the token itself. -/
theorem secrets_do_not_show (tasks : List (Nat × Task)) (s : Session Http.Script) :
    (∀ (i : Issuer) (secret : String),
      let one := (TokenSource.issued i).serveAll Http.Script.link tasks s
      let other := (TokenSource.issued { i with clientSecret := secret }).serveAll Http.Script.link tasks s
      one.1 = other.1 ∧
        one.2.link.seen.map Http.Request.formless = other.2.link.seen.map Http.Request.formless) ∧
    ∀ token token', Http.isHeaderValue token = true → Http.isHeaderValue token' = true →
      let one := (TokenSource.fixed token).serveAll Http.Script.link tasks s
      let other := (TokenSource.fixed token').serveAll Http.Script.link tasks s
      one.1.map (Glimpse.withToken fun _ => "") = other.1.map (Glimpse.withToken fun _ => "") ∧
        one.2.link.seen.map Http.Request.anonymous = other.2.link.seen.map Http.Request.anonymous := by
  have self (hide : Http.Request → Http.Request) : s.Alike (Http.Script.Alike hide) s := ⟨⟨rfl, rfl⟩, rfl, rfl⟩
  constructor
  · intro i secret one other
    have links := Http.Script.link_corresponds TokenSource.formless_url
    obtain ⟨glimpses, after⟩ := (TokenSource.issued_indistinct links i secret).serveAll links tasks (self _)
    refine ⟨?_, after.link.2⟩
    have same : Glimpse.withToken id = id := funext Glimpse.withToken_id
    rw [same, List.map_id, List.map_id] at glimpses
    exact glimpses
  · intro token token' valid valid' one other
    have links : Http.Script.link.Corresponds Http.Script.link (Hiding Http.Request.anonymous) _ :=
      Http.Script.link_corresponds fun _ => rfl
    obtain ⟨glimpses, after⟩ := (TokenSource.fixed_indistinct valid valid').serveAll links tasks (self _)
    exact ⟨glimpses, after.link.2⟩

/-- A broker on the same network. -/
def Endpoint.nearby : Endpoint := .ofSettings { baseUrl := "http://node-a:8080" }

theorem Endpoint.nearby_built {token : String} (valid : Http.isHeaderValue token = true) :
    ∃ request, (nearby.draft ⟨"a"⟩ .discover token).build = .ok request ∧
      request.authorization = some ("Bearer " ++ token) := by
  have url : (nearby.draft ⟨"a"⟩ .discover token).url = "http://node-a:8080/analyses/a/participants/self" := by cbv
  have parsed : Url.parse "http://node-a:8080/analyses/a/participants/self" =
      .ok
        { scheme := "http", host := some "node-a", port := some 8080
          path := "/analyses/a/participants/self" } := by decide +kernel
  unfold Http.Draft.build
  rw [url, parsed]
  simp only [draft, Option.all_some, valid]
  exact ⟨_, rfl, rfl⟩

/-- A broker that is called with one token or the other gets another header, which its refusal does not tell. -/
theorem secrets_do_not_show_when_refused :
    let s : Session Http.Script := { link := { replies := [{ status := 403 }] } }
    let tasks : List (Nat × Task) := [(0, .errand .nearby (.call ⟨"a"⟩ .discover))]
    let one := (TokenSource.fixed "t").serveAll Http.Script.link tasks s
    let other := (TokenSource.fixed "u").serveAll Http.Script.link tasks s
    Http.isHeaderValue "t" = true ∧ Http.isHeaderValue "u" = true ∧
      one.2.link.seen.map (·.authorization) = [some "Bearer t"] ∧
      other.2.link.seen.map (·.authorization) = [some "Bearer u"] ∧
      one.1.map (Glimpse.withToken fun _ => "") = other.1.map (Glimpse.withToken fun _ => "") := by
  intro s tasks one other
  have valid : Http.isHeaderValue "t" = true := by decide
  have valid' : Http.isHeaderValue "u" = true := by decide
  have sent {token : String} (valid : Http.isHeaderValue token = true) :
      ((TokenSource.fixed token).serveAll Http.Script.link tasks s).2.link.seen.map (·.authorization) =
        [some ("Bearer " ++ token)] := by
    obtain ⟨request, built, authorization⟩ := Endpoint.nearby_built valid
    have asked : TokenClient.token (TokenSource.fixed token) Http.Script.link { s with now := s.now + 0 } =
        (.ok token, { s with now := s.now + 0 }) := rfl
    simp only [tasks, TokenSource.serveAll, TokenSource.serve, Endpoint.perform_call,
      Endpoint.call_of_built asked built]
    exact congrArg (fun a => [a]) authorization
  exact ⟨valid, valid', sent valid, sent valid', ((secrets_do_not_show tasks s).2 "t" "u" valid valid').1⟩

end BrokerTrial
