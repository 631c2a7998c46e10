import BrokerTrial.Json.Record
import BrokerTrial.Json.Writer
import BrokerTrial.Text.Blank
import BrokerTrial.Text.Quoted

/-!
# Identifiers

The identities that a broker deals in. Each is an opaque text of its own type; only an analysis
named by a user is checked, and what the check asks for is that it shows something. In JSON each
is its text, and what is read there is not checked.
-/

namespace BrokerTrial

/-- The analysis that scopes every call to a broker. -/
structure AnalysisId where
  text : String
  deriving DecidableEq, Repr

/-- A participant of an analysis, as its broker names it. -/
structure NodeId where
  text : String
  deriving DecidableEq, Repr

structure SubscriptionId where
  text : String
  deriving DecidableEq, Repr

structure InvalidId where
  kind : String
  deriving DecidableEq, Repr

namespace InvalidId

def message (e : InvalidId) : String := e.kind ++ " must not be blank"

end InvalidId

namespace AnalysisId

def ofText (s : String) : Except InvalidId AnalysisId :=
  if Text.isBlank s then .error ⟨"analysis id"⟩ else .ok ⟨s⟩

def debug (a : AnalysisId) : String := Text.tagged "AnalysisId" a.text

def json (a : AnalysisId) : String := Json.text a.text

def ofBytes (bytes : ByteArray) : Except Json.Problem AnalysisId := (Json.textOf bytes).map mk

end AnalysisId

namespace NodeId

def debug (n : NodeId) : String := Text.tagged "NodeId" n.text

def json (n : NodeId) : String := Json.text n.text

def ofBytes (bytes : ByteArray) : Except Json.Problem NodeId := (Json.textOf bytes).map mk

end NodeId

namespace SubscriptionId

def debug (s : SubscriptionId) : String := Text.tagged "SubscriptionId" s.text

def json (s : SubscriptionId) : String := Json.text s.text

def ofBytes (bytes : ByteArray) : Except Json.Problem SubscriptionId := (Json.textOf bytes).map mk

end SubscriptionId

end BrokerTrial
