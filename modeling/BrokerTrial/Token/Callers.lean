import BrokerTrial.Token

/-!
# Callers that want a token at the same time

A caller takes the lock, or gets in line for it. With the lock it looks at what is kept, and it asks the
issuer if there is no fresh token. It has the lock until it has got its outcome, whatever that is.
-/

namespace BrokerTrial

/-- What has become of some callers of one client. Callers are numbers. -/
structure Callers (σ : Type) where
  session : Session σ
  locked : Bool := false
  /-- Who waits for the lock, first in line first. -/
  line : List Nat := []
  /-- Who has got the lock and is yet to look at what is kept. -/
  looking : List Nat := []
  /-- Whose requests are under way. -/
  asking : List Nat := []
  /-- Requests made so far. -/
  requests : Nat := 0
  /-- What the callers got, in the order in which they got it. -/
  outcomes : List (Nat × Except TokenError String) := []

namespace Callers

variable {σ : Type}

/-- A caller comes, or looks at what is kept, or has the reply to its request. -/
inductive Event where
  | call (caller : Nat)
  | look (caller : Nat)
  | reply (caller : Nat)
  deriving DecidableEq, Repr

def Event.caller? : Event → Option Nat
  | call caller => some caller
  | look _ | reply _ => none

/-- A caller gets its outcome, and the lock goes to the first in line. -/
def finish (m : Callers σ) (caller : Nat) (outcome : Except TokenError String) : Callers σ :=
  let m := { m with outcomes := m.outcomes ++ [(caller, outcome)] }
  match m.line with
  | [] => { m with locked := false }
  | next :: rest => { m with line := rest, looking := m.looking ++ [next] }

/-- What comes of an event. Nothing comes of it if the caller is not at that point. -/
def step (link : Http.Link σ) (i : Issuer) (m : Callers σ) : Event → Callers σ
  | .call caller =>
    if m.locked then { m with line := m.line ++ [caller] }
    else { m with locked := true, looking := m.looking ++ [caller] }
  | .look caller =>
    if caller ∈ m.looking then
      let m := { m with looking := m.looking.erase caller }
      match KeptToken.fresh m.session.now m.session.kept with
      | some token => m.finish caller (.ok token)
      | none => { m with asking := m.asking ++ [caller], requests := m.requests + 1 }
    else m
  | .reply caller =>
    if caller ∈ m.asking then
      let m := { m with asking := m.asking.erase caller }
      match m.session.requestToken link i with
      | (.error e, s) => finish { m with session := s } caller (.error e)
      | (.ok g, s) =>
        finish { m with session := { s with kept := KeptToken.ofGrant s.now g } } caller (.ok g.token)
    else m

def run (link : Http.Link σ) (i : Issuer) (m : Callers σ) : List Event → Callers σ
  | [] => m
  | e :: rest => (m.step link i e).run link i rest

end Callers

end BrokerTrial
