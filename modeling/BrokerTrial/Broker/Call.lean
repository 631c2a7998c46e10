import BrokerTrial.Identifier
import BrokerTrial.Message

/-!
# Calls to a broker

What a broker can be asked to do within an analysis, and where, how and with what success it is asked
over HTTP.
-/

namespace BrokerTrial

inductive Target where
  | node (id : NodeId)
  /-- Every other participant. -/
  | everyone
  deriving DecidableEq, Repr

namespace Target

def debug : Target → String
  | node id => Text.tagged "Node" id.debug
  | everyone => "Broadcast"

end Target

/-- A call to a broker within an analysis. -/
inductive Call where
  | subscribe (webhookUrl : String)
  | unsubscribe (id : SubscriptionId)
  | discover
  | send (target : Target) (m : Message)
  deriving DecidableEq, Repr

namespace Call

def operation : Call → String
  | subscribe _ => "subscription creation"
  | unsubscribe _ => "subscription deletion"
  | discover => "self discovery"
  | send (.node _) _ => "message send"
  | send .everyone _ => "broadcast send"

def success : Call → Nat
  | subscribe _ => 201
  | unsubscribe _ => 204
  | discover => 200
  | send _ _ => 202

/-- What is sent along, if anything. -/
def body : Call → Option String
  | subscribe url => some (Json.object [("webhookUrl", Json.text url)])
  | unsubscribe _ | discover => none
  | send (.node id) m =>
    some (Json.object [("recipients", Json.array [Json.text id.text]), ("message", m.json)])
  | send .everyone m => some (Json.object [("message", m.json)])

def analysisUrl (baseUrl : String) (a : AnalysisId) : String := baseUrl ++ "/analyses/" ++ a.text

def messagesUrl (baseUrl : String) (a : AnalysisId) : String := analysisUrl baseUrl a ++ "/messages"

def broadcastUrl (baseUrl : String) (a : AnalysisId) : String := messagesUrl baseUrl a ++ "/broadcast"

def subscriptionsUrl (baseUrl : String) (a : AnalysisId) : String :=
  messagesUrl baseUrl a ++ "/subscriptions"

def subscriptionUrl (baseUrl : String) (a : AnalysisId) (id : SubscriptionId) : String :=
  subscriptionsUrl baseUrl a ++ "/" ++ id.text

def selfUrl (baseUrl : String) (a : AnalysisId) : String :=
  analysisUrl baseUrl a ++ "/participants/self"

/-- The address that a call goes to. -/
def url (baseUrl : String) (a : AnalysisId) : Call → String
  | subscribe _ => subscriptionsUrl baseUrl a
  | unsubscribe id => subscriptionUrl baseUrl a id
  | discover => selfUrl baseUrl a
  | send (.node _) _ => messagesUrl baseUrl a
  | send .everyone _ => broadcastUrl baseUrl a

end Call

end BrokerTrial
