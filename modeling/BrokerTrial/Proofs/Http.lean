import Mathlib
import BrokerTrial.Token

/-!
# Requests and what comes of them

A draft leads to one request, or to none if its address or its token will not do. A request that is made
has its reply, or the failure of having none.
-/

namespace BrokerTrial

namespace Http

namespace Draft

/-- Why there is no request for a draft. -/
inductive Unbuildable (d : Draft) : Failure → Prop where
  | address {e : Url.ParseError} (fails : Url.parse d.url = .error e) : Unbuildable d (.badAddress e)
  | header {token : String} (bearer : d.bearer = some token) (invalid : isHeaderValue token = false) :
      Unbuildable d .badHeader
  | scheme {u : Url} (parsed : Url.parse d.url = .ok u) (other : u.requestable = false) :
      Unbuildable d (.badScheme u.text)

structure Builds (d : Draft) (r : Request) : Prop where
  method : r.method = d.method
  url : Url.parse d.url = .ok r.url
  credentials : r.credentials = r.url.credentials
  authorization : r.authorization = d.bearer.map ("Bearer " ++ ·)
  contentType : r.contentType = d.contentType
  body : r.body = d.body

theorem not_requestable_of_hostless {u : Url} (hostless : (!u.hasHost) = true) : u.requestable = false := by
  have none : u.hasHost = false := by simpa using hostless
  rw [Url.requestable, none, Bool.false_and]

theorem build_cases (d : Draft) :
    (∃ f, d.build = .error f ∧ d.Unbuildable f) ∨ ∃ r, d.build = .ok r ∧ d.Builds r := by
  unfold build
  cases parsed : Url.parse d.url with
  | error e => exact Or.inl ⟨_, rfl, .address parsed⟩
  | ok u =>
    dsimp only
    split
    · rename_i hostless
      exact Or.inl ⟨_, rfl, .scheme parsed (not_requestable_of_hostless hostless)⟩
    · split
      · rename_i invalid
        left
        cases bearer : d.bearer with
        | none => simp [bearer] at invalid
        | some token => exact ⟨_, rfl, .header bearer (by simpa [bearer] using invalid)⟩
      · split
        · rename_i other
          exact Or.inl ⟨_, rfl, .scheme parsed (by simpa using other)⟩
        · exact Or.inr ⟨_, rfl, rfl, parsed, rfl, rfl, rfl, rfl⟩

theorem url_of_build {d : Draft} {r : Request} (built : d.build = .ok r) :
    Url.parse d.url = .ok r.url ∧ r.url.requestable = true := by
  unfold build at built
  cases parsed : Url.parse d.url with
  | error e => simp [parsed] at built
  | ok u =>
    rw [parsed] at built
    dsimp only at built
    split at built
    · cases built
    · split at built
      · cases built
      · split at built
        · cases built
        · rename_i requestable
          cases built
          exact ⟨rfl, by simpa using requestable⟩

end Draft

/-- What the sender of a request has after an exchange. -/
def Exchange.received (x : Exchange) (r : Request) : Except Failure Reply :=
  x.outcome.mapError (.unanswered r.url.text)

end Http

namespace Session

variable {σ : Type} {s : Session σ} {link : Http.Link σ} {d : Http.Draft} {limit : Nat}

theorem transmit_of_error {f : Http.Failure} (fails : d.build = .error f) :
    s.transmit link d limit = (.error f, s) := by
  simp only [transmit, fails]

theorem transmit_of_ok {r : Http.Request} (built : d.build = .ok r) :
    s.transmit link d limit =
      ((link r limit s.link).1.received r,
        { s with link := (link r limit s.link).2, now := s.now + (link r limit s.link).1.takes }) := by
  simp only [transmit, built, Http.Exchange.received]
  cases (link r limit s.link).1.outcome <;> rfl

end Session

end BrokerTrial
