import Mathlib
import BrokerTrial.Broker.Errand
import BrokerTrial.Proofs.Http

/-!
# Clients side by side

Two clients over links of their own that answer corresponding requests alike. If their tokens make for such
requests too, whatever one of them is asked to do ends as it does with the other.
-/

namespace BrokerTrial

variable {σ τ : Type} {link : Http.Link σ} {link' : Http.Link τ} {same : Http.Request → Http.Request → Prop}
  {alike : σ → τ → Prop}

namespace Http

/-- Links that answer corresponding requests alike. -/
structure Link.Corresponds (link : Link σ) (link' : Link τ) (same : Request → Request → Prop)
    (alike : σ → τ → Prop) : Prop where
  url : ∀ {r r' : Request}, same r r' → r.url = r'.url
  outcome : ∀ {r r' : Request} {s : σ} {s' : τ}, same r r' → alike s s' → ∀ limit,
    (link r limit s).1 = (link' r' limit s').1
  after : ∀ {r r' : Request} {s : σ} {s' : τ}, same r r' → alike s s' → ∀ limit,
    alike (link r limit s).2 (link' r' limit s').2

/-- Drafts that fail alike, or lead to corresponding requests. -/
inductive Draft.Corresponds (same : Request → Request → Prop) (d d' : Draft) : Prop where
  | failed {f : Failure} (fails : d.build = .error f) (fails' : d'.build = .error f)
  | built {r r' : Request} (built : d.build = .ok r) (built' : d'.build = .ok r') (same : same r r')

theorem Draft.corresponds_self {d : Draft} (all : ∀ r, d.Builds r → same r r) : d.Corresponds same d := by
  obtain ⟨f, fails, -⟩ | ⟨r, built, builds⟩ := d.build_cases
  · exact .failed fails fails
  · exact .built built built (all r builds)

/-- Whether a draft leads to a request is a matter of its address and of its token. -/
theorem Draft.corresponds_of_url {d d' : Draft} (url : d.url = d'.url)
    (valid : d.bearer.all isHeaderValue = d'.bearer.all isHeaderValue)
    (all : ∀ u, same
      ⟨d.method, u, u.credentials, d.bearer.map ("Bearer " ++ ·), d.contentType, d.body⟩
      ⟨d'.method, u, u.credentials, d'.bearer.map ("Bearer " ++ ·), d'.contentType, d'.body⟩) :
    d.Corresponds same d' := by
  cases parsed : Url.parse d.url with
  | error e =>
    apply Corresponds.failed (f := .badAddress e)
    · simp only [build, parsed]
    · simp only [build, ← url, parsed]
  | ok u =>
    by_cases hostless : (!u.hasHost) = true
    · apply Corresponds.failed (f := .badScheme u.text)
      · simp only [build, parsed, if_pos hostless]
      · simp only [build, ← url, parsed, if_pos hostless]
    · by_cases invalid : (!d.bearer.all isHeaderValue) = true
      · apply Corresponds.failed (f := .badHeader)
        · simp only [build, parsed, if_neg hostless, if_pos invalid]
        · rw [valid] at invalid
          simp only [build, ← url, parsed, if_neg hostless, if_pos invalid]
      · have invalid' := invalid
        rw [valid] at invalid'
        by_cases scheme : (!u.requestable) = true
        · apply Corresponds.failed (f := .badScheme u.text)
          · simp only [build, parsed, if_neg hostless, if_neg invalid, if_pos scheme]
          · simp only [build, ← url, parsed, if_neg hostless, if_neg invalid', if_pos scheme]
        · apply Corresponds.built _ _ (all u)
          · simp only [build, parsed, if_neg hostless, if_neg invalid, if_neg scheme]
          · simp only [build, ← url, parsed, if_neg hostless, if_neg invalid', if_neg scheme]

end Http

/-! ### Sessions -/

structure Session.Alike (alike : σ → τ → Prop) (s : Session σ) (s' : Session τ) : Prop where
  link : alike s.link s'.link
  now : s.now = s'.now
  kept : s.kept = s'.kept

namespace Session

variable {s : Session σ} {s' : Session τ} {α : Type}

/-- Two clients come to one result, and go on alike. -/
def Meet (alike : σ → τ → Prop) (x : α × Session σ) (x' : α × Session τ) : Prop :=
  ∃ result t t', x = (result, t) ∧ x' = (result, t') ∧ t.Alike alike t'

theorem Meet.result {β : Type} {x : α × Session σ} {x' : α × Session τ} (h : Meet alike x x') (f : α → β) :
    Meet alike (x.map f id) (x'.map f id) := by
  obtain ⟨result, t, t', rfl, rfl, after⟩ := h
  exact ⟨_, t, t', rfl, rfl, after⟩

theorem Alike.later (h : s.Alike alike s') (wait : Nat) :
    Alike alike { s with now := s.now + wait } { s' with now := s'.now + wait } :=
  ⟨h.link, by rw [h.now], h.kept⟩

/-- A session that is alike but for notes that it takes is that session once they are left out. -/
theorem Alike.over_eq {ρ : Type} {s : Session (σ × ρ)} {s' : Session σ}
    (h : s.Alike (fun x x' => x.1 = x') s') : s.over s.link.1 = s' := by
  obtain ⟨link, now, kept⟩ := s
  obtain ⟨link', now', kept'⟩ := s'
  obtain ⟨rfl, rfl, rfl⟩ := h
  rfl

theorem Alike.transmit (h : s.Alike alike s') (links : link.Corresponds link' same alike) {d d' : Http.Draft}
    (drafts : d.Corresponds same d') (limit : Nat) :
    Meet alike (s.transmit link d limit) (s'.transmit link' d' limit) := by
  cases drafts with
  | failed fails fails' => exact ⟨_, s, s', transmit_of_error fails, transmit_of_error fails', h⟩
  | built built built' same =>
    -- the failure of an exchange names the address, which is the same too
    have outcome := links.outcome same h.link limit
    have other : s'.transmit link' d' limit = _ := transmit_of_ok built'
    rw [← outcome, Http.Exchange.received, ← links.url same] at other
    exact ⟨_, _, _, transmit_of_ok built, other, links.after same h.link limit, by rw [h.now], h.kept⟩

theorem Alike.requestToken (h : s.Alike alike s') (links : link.Corresponds link' same alike) {i i' : Issuer}
    (drafts : i.draft.Corresponds same i'.draft) (timeout : i.timeout = i'.timeout) :
    Meet alike (s.requestToken link i) (s'.requestToken link' i') := by
  obtain ⟨result, t, t', one, other, after⟩ := h.transmit links drafts i.timeout.ceilMillis
  unfold Session.requestToken
  rw [← timeout, one, other]
  cases result with
  | error f => exact ⟨_, _, _, rfl, rfl, after⟩
  | ok reply => exact ⟨_, _, _, rfl, rfl, after⟩

theorem Alike.token (h : s.Alike alike s') (links : link.Corresponds link' same alike) {i i' : Issuer}
    (drafts : i.draft.Corresponds same i'.draft) (timeout : i.timeout = i'.timeout) :
    Meet alike (s.token link (.issued i)) (s'.token link' (.issued i')) := by
  unfold Session.token
  rw [← h.now, ← h.kept]
  cases KeptToken.fresh s.now s.kept with
  | some token => exact ⟨_, _, _, rfl, rfl, h⟩
  | none =>
    obtain ⟨result, t, t', one, other, after⟩ := h.requestToken links drafts timeout
    simp only [one, other]
    cases result with
    | error e => exact ⟨_, _, _, rfl, rfl, after⟩
    | ok g => exact ⟨_, _, _, rfl, rfl, after.link, after.now, by rw [after.now]⟩

end Session

/-! ### Clients -/

/-- Two clients asked for a token fail alike, or have tokens that correspond. -/
inductive Tokens (tokens : String → String → Prop) :
    Except TokenError String → Except TokenError String → Prop where
  | failed (e : TokenError) : Tokens tokens (.error e) (.error e)
  | had {t t' : String} (corresponds : tokens t t') : Tokens tokens (.ok t) (.ok t')

theorem Tokens.refl (r : Except TokenError String) : Tokens Eq r r := by
  cases r with
  | error e => exact .failed e
  | ok t => exact .had rfl

section

variable {α β : Type} [TokenClient α σ] [TokenClient β τ]

/-- Clients whose tokens correspond whenever both are asked. -/
def Twins (link : Http.Link σ) (link' : Http.Link τ) (alike : σ → τ → Prop) (tokens : String → String → Prop)
    (client : α) (client' : β) : Prop :=
  ∀ {s : Session σ} {s' : Session τ}, s.Alike alike s' → ∃ r r' t t',
    TokenClient.token client link s = (r, t) ∧ TokenClient.token client' link' s' = (r', t') ∧
      Tokens tokens r r' ∧ t.Alike alike t'

variable {tokens : String → String → Prop} {client : α} {client' : β} {s : Session σ} {s' : Session τ}
  {e : Endpoint} {a : AnalysisId} {c : Call}

namespace Endpoint

open Session (Meet)

/-- Calls with corresponding tokens make corresponding requests. -/
def Drafts (e : Endpoint) (a : AnalysisId) (c : Call) (same : Http.Request → Http.Request → Prop)
    (tokens : String → String → Prop) : Prop :=
  ∀ t t', tokens t t' → (e.draft a c t).Corresponds same (e.draft a c t')

theorem call_meet (links : link.Corresponds link' same alike) (twins : Twins link link' alike tokens client client')
    (drafts : e.Drafts a c same tokens) (h : s.Alike alike s') :
    Meet alike (e.call link client a c s) (e.call link' client' a c s') := by
  obtain ⟨r, r', t, t', one, other, corresponds, after⟩ := twins h
  cases corresponds with
  | failed err =>
    simp only [call, one, other]
    exact ⟨_, _, _, rfl, rfl, after⟩
  | had corresponds =>
    obtain ⟨result, u, u', sent, sent', later⟩ :=
      after.transmit links (drafts _ _ corresponds) e.timeout.ceilMillis
    simp only [call, one, other, sent, sent']
    cases result with
    | error f => exact ⟨_, _, _, rfl, rfl, later⟩
    | ok reply => exact ⟨_, _, _, rfl, rfl, later⟩

theorem isReady_meet (links : link.Corresponds link' same alike)
    (draft : Http.Draft.Corresponds same { method := .get, url := e.readinessUrl }
      { method := .get, url := e.readinessUrl }) (h : s.Alike alike s') :
    Meet alike (e.isReady link s) (e.isReady link' s') := by
  obtain ⟨result, t, t', one, other, after⟩ := h.transmit links draft e.timeout.ceilMillis
  simp only [isReady, one, other]
  cases result with
  | error f => exact ⟨_, _, _, rfl, rfl, after⟩
  | ok reply => exact ⟨_, _, _, rfl, rfl, after⟩

theorem subscribe_meet (links : link.Corresponds link' same alike)
    (twins : Twins link link' alike tokens client client') {url : String}
    (drafts : e.Drafts a (.subscribe url) same tokens) (h : s.Alike alike s') :
    Meet alike (e.subscribe link client a url s) (e.subscribe link' client' a url s') := by
  obtain ⟨result, t, t', one, other, after⟩ := call_meet links twins drafts h
  simp only [subscribe, one, other]
  exact ⟨_, _, _, rfl, rfl, after⟩

theorem unsubscribe_meet (links : link.Corresponds link' same alike)
    (twins : Twins link link' alike tokens client client') {id : SubscriptionId}
    (drafts : e.Drafts a (.unsubscribe id) same tokens) (h : s.Alike alike s') :
    Meet alike (e.unsubscribe link client a id s) (e.unsubscribe link' client' a id s') := by
  obtain ⟨result, t, t', one, other, after⟩ := call_meet links twins drafts h
  simp only [unsubscribe, one, other]
  exact ⟨_, _, _, rfl, rfl, after⟩

theorem discover_meet (links : link.Corresponds link' same alike)
    (twins : Twins link link' alike tokens client client') (drafts : e.Drafts a .discover same tokens)
    (h : s.Alike alike s') : Meet alike (e.discover link client a s) (e.discover link' client' a s') := by
  obtain ⟨result, t, t', one, other, after⟩ := call_meet links twins drafts h
  simp only [discover, one, other]
  exact ⟨_, _, _, rfl, rfl, after⟩

theorem send_meet (links : link.Corresponds link' same alike)
    (twins : Twins link link' alike tokens client client') {target : Target} {m : Message}
    (drafts : e.Drafts a (.send target m) same tokens) (h : s.Alike alike s') :
    Meet alike (e.send link client a target m s) (e.send link' client' a target m s') := by
  obtain ⟨result, t, t', one, other, after⟩ := call_meet links twins drafts h
  simp only [send, one, other]
  exact ⟨_, _, _, rfl, rfl, after⟩

theorem perform_meet (links : link.Corresponds link' same alike)
    (twins : Twins link link' alike tokens client client') (drafts : ∀ a c, e.Drafts a c same tokens)
    (draft : Http.Draft.Corresponds same { method := .get, url := e.readinessUrl }
      { method := .get, url := e.readinessUrl }) (h : s.Alike alike s') (x : Errand) :
    Meet alike (e.perform link client s x) (e.perform link' client' s' x) := by
  cases x with
  | readiness => exact (isReady_meet links draft h).result _
  | call a c =>
    cases c with
    | subscribe url => exact (subscribe_meet links twins (drafts a (.subscribe url)) h).result _
    | unsubscribe old => exact (unsubscribe_meet links twins (drafts a (.unsubscribe old)) h).result _
    | discover => exact (discover_meet links twins (drafts a .discover) h).result _
    | send target m => exact (send_meet links twins (drafts a (.send target m)) h).result _

end Endpoint

end

end BrokerTrial
