import BrokerTrial.Token

/-!
# Failed calls to a broker
-/

namespace BrokerTrial

/-- Why a call to a broker failed. -/
inductive BrokerError where
  | token (e : TokenError)
  /-- No client could be made. -/
  | client (f : Http.Failure)
  | request (operation baseUrl : String) (f : Http.Failure)
  | unexpectedStatus (operation baseUrl : String) (status : Nat) (body : String)
  | undecodable (operation baseUrl : String) (f : Http.Failure)
  deriving DecidableEq

namespace BrokerError

def message (w : Wording) : BrokerError → String
  | token e => "could not acquire access token for request: " ++ e.message w
  | client f => "could not build http client: " ++ f.text
  | request operation baseUrl f =>
    "failed to send " ++ operation ++ " request to node at `" ++ baseUrl ++ "`: " ++ f.text
  | unexpectedStatus operation baseUrl status body =>
    "message broker at `" ++ baseUrl ++ "` returned unexpected status code (" ++
      toString status ++ ") for " ++ operation ++ ": " ++ body
  | undecodable operation baseUrl f =>
    "could not decode " ++ operation ++ " response from node at `" ++ baseUrl ++ "`: " ++ f.text

/-- The texts of what lies behind an error, from the outside in. -/
def causes (w : Wording) : BrokerError → List String
  | token e => e.message w :: e.causes w
  | client f => f.text :: f.causes w
  | request _ _ f => f.text :: f.causes w
  | unexpectedStatus .. => []
  | undecodable _ _ f => f.text :: f.causes w

end BrokerError

end BrokerTrial
