import BrokerTrial.Http

/-!
# Scripted replies

A server that gives out prepared replies, one to each request that comes, and then has none left.
-/

namespace BrokerTrial.Http

structure Prepared where
  status : Nat := 200
  body : ByteArray := ByteArray.empty
  /-- The connection is closed instead. -/
  close : Bool := false
  /-- The body breaks off before its end. -/
  truncate : Bool := false
  /-- How long the reply takes, in milliseconds. -/
  delay : Nat := 0

/-- The replies left, and the requests that came. -/
structure Script where
  replies : List Prepared
  seen : List Request := []

namespace Script

def exhausted : Reply := { status := 503, body := "no reply scripted".toUTF8 }

/-- The server as a link. A reply that takes too long is none. -/
def link : Link Script := fun request limit s =>
  let seen := s.seen ++ [request]
  match s.replies with
  | [] => (⟨.ok exhausted, 0⟩, { s with seen })
  | r :: replies =>
    let s := { replies, seen }
    if limit < r.delay then (⟨.error ["operation timed out"], limit⟩, s)
    else if r.close then
      (⟨.error ["client error (SendRequest)", "connection closed before message completed"], r.delay⟩, s)
    else (⟨.ok { status := r.status, body := r.body, complete := !r.truncate }, r.delay⟩, s)

end Script

namespace Link

/-- A link that works only if there is a network. -/
def onlyIf {σ : Type} (network : Bool) (l : Link σ) : Link σ := if network then l else down

end Link

end BrokerTrial.Http
