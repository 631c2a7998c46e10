import BrokerTrial.Token

/-!
# Taking turns for a token

Callers that want a token at the same time stand in line. Who is first asks the issuer if there is no
fresh token, and the others wait for the reply: each of them then finds the kept token, or asks in its
turn.
-/

namespace BrokerTrial

/-- The line for the token of one issuer. Callers are numbers. -/
structure TokenLine where
  kept : Option KeptToken := none
  /-- Whose request is under way. -/
  asking : Option Nat := none
  /-- Who waits, first in line first. -/
  waiting : List Nat := []
  /-- Requests made so far. -/
  requests : Nat := 0
  /-- What the callers got, in the order in which they got it. -/
  outcomes : List (Nat × Except TokenError String) := []

namespace TokenLine

/-- Serve those in line until one has to ask. -/
def serve (now : Nat) : List Nat → TokenLine → TokenLine
  | [], l => { l with waiting := [] }
  | caller :: rest, l =>
    match KeptToken.fresh now l.kept with
    | some token => serve now rest { l with outcomes := l.outcomes ++ [(caller, .ok token)] }
    | none => { l with asking := some caller, waiting := rest, requests := l.requests + 1 }

def arrive (l : TokenLine) (now caller : Nat) : TokenLine :=
  match l.asking with
  | some _ => { l with waiting := l.waiting ++ [caller] }
  | none => serve now (l.waiting ++ [caller]) l

def reply (l : TokenLine) (now : Nat) (r : Except TokenError Grant) : TokenLine :=
  match l.asking with
  | none => l
  | some caller =>
    let l := { l with asking := none, outcomes := l.outcomes ++ [(caller, r.map (·.token))] }
    let l := match r with
      | .ok g => { l with kept := KeptToken.ofGrant now g }
      | .error _ => l
    serve now l.waiting l

end TokenLine

namespace Session

variable {σ : Type}

/-- Answer the requests of a line until nobody asks; `fuel` bounds their number. -/
def answerLine (link : Http.Link σ) (i : Issuer) :
    (fuel : Nat) → TokenLine → Session σ → TokenLine × Session σ
  | 0, l, s => (l, s)
  | fuel + 1, l, s =>
    match l.asking with
    | none => (l, s)
    | some _ =>
      let (r, s) := s.requestToken link i
      answerLine link i fuel (l.reply s.now r) s

/-- Several callers want a token at once; what they get, in their order. -/
def tokens (s : Session σ) (link : Http.Link σ) (count : Nat) :
    TokenSource → List (Except TokenError String) × Session σ
  | .fixed token => (List.replicate count (.ok token), s)
  | .issued i =>
    let start := (List.range count).foldl (fun l caller => l.arrive s.now caller) { kept := s.kept }
    let (l, s) := answerLine link i count start s
    (l.outcomes.map Prod.snd, { s with kept := l.kept })

end Session

end BrokerTrial
