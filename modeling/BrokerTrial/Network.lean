import BrokerTrial.Broker.Call
import BrokerTrial.Broker.Error

/-!
# A network of brokers in memory

Brokers that share one routing table. A message that one of them accepts is posted to the webhooks of
the matching subscriptions. Faults can be set up: calls that fail, deliveries that are lost, and
deliveries that are made over and over until their subscription is deleted.
-/

namespace BrokerTrial

/-- A webhook that is registered at a broker. -/
structure Subscription where
  id : SubscriptionId
  analysis : AnalysisId
  webhookUrl : String
  deriving DecidableEq, Repr

structure Station where
  baseUrl : String
  id : NodeId
  ready : Bool := true
  failsSubscription : Bool := false
  failsDeletion : Bool := false
  failsDiscovery : Bool := false
  /-- In order of creation. -/
  subscriptions : List Subscription := []
  deriving DecidableEq, Repr

structure Post where
  time : Nat
  url : String
  message : Message
  deriving DecidableEq, Repr

/-- A delivery that is repeated for as long as its subscription lasts. -/
structure Redelivery where
  subscription : SubscriptionId
  url : String
  message : Message
  interval : Nat
  /-- When it is made next. -/
  due : Nat
  deriving DecidableEq, Repr

/-- Times are in milliseconds. -/
structure Network where
  stations : List Station := []
  /-- Subscriptions asked for so far. -/
  asked : Nat := 0
  /-- In order of deletion. -/
  deleted : List SubscriptionId := []
  /-- Messages accepted so far. -/
  sent : Nat := 0
  /-- How many of the next sends fail. -/
  failures : Nat := 0
  /-- How many of the next deliveries are lost. -/
  drops : Nat := 0
  redeliverEvery : Option Nat := none
  now : Nat := 0
  /-- All requests to webhooks, in order. -/
  posts : List Post := []
  redeliveries : List Redelivery := []
  deriving DecidableEq, Repr

namespace Network

/-- What can be set up in a network. What concerns a broker that is not there changes nothing. -/
inductive Setting where
  | failSubscriptions (id : NodeId)
  | failDeletions (id : NodeId)
  | failDiscovery (id : NodeId)
  | ready (id : NodeId) (ready : Bool)
  | failSends (count : Nat)
  | dropDeliveries (count : Nat)
  | redeliver (interval : Nat)
  deriving DecidableEq, Repr

/-- The identity under which a broker is called. -/
structure Member where
  baseUrl : String
  id : NodeId
  deriving DecidableEq, Repr

namespace Member

def debug (m : Member) : String :=
  Text.record "MockBrokerClient" [("base_url", Text.quoted m.baseUrl), ("node_id", m.id.debug)]

end Member

/-- The subscriptions that are registered, station by station in order of creation. -/
def subscriptions (n : Network) : List Subscription := n.stations.flatMap (·.subscriptions)

def active (n : Network) : List SubscriptionId := n.subscriptions.map (·.id)

/-- The first station of an id, which is the one that answers to it. -/
def station? (n : Network) (id : NodeId) : Option Station := n.stations.find? (·.id = id)

/-- Change the first station of an id, if there is one. -/
def changeFirst (id : NodeId) (change : Station → Station) : List Station → List Station
  | [] => []
  | s :: rest => if s.id = id then change s :: rest else s :: changeFirst id change rest

def change (n : Network) (id : NodeId) (f : Station → Station) : Network :=
  { n with stations := changeFirst id f n.stations }

/-- A new station. It is ready, and nothing fails. -/
def join (n : Network) (m : Member) : Network :=
  { n with stations := n.stations ++ [{ baseUrl := m.baseUrl, id := m.id }] }

def set (n : Network) : Setting → Network
  | .failSubscriptions id => n.change id fun s => { s with failsSubscription := true }
  | .failDeletions id => n.change id fun s => { s with failsDeletion := true }
  | .failDiscovery id => n.change id fun s => { s with failsDiscovery := true }
  | .ready id ready => n.change id fun s => { s with ready }
  | .failSends count => { n with failures := count }
  | .dropDeliveries count => { n with drops := count }
  | .redeliver interval => { n with redeliverEvery := some interval }

/-- The failure of a call to a member. -/
def failure (m : Member) (c : Call) (status : Nat) (text : String) : BrokerError :=
  .unexpectedStatus c.operation m.baseUrl status text

/-- The id of the subscription that is asked for next. -/
def nextId (n : Network) : SubscriptionId := ⟨"sub-" ++ toString (n.asked + 1)⟩

/-- Register a webhook. An id is used up even if this fails. -/
def subscribe (n : Network) (m : Member) (a : AnalysisId) (webhookUrl : String) :
    Except BrokerError SubscriptionId × Network :=
  let c := Call.subscribe webhookUrl
  let asked := { n with asked := n.asked + 1 }
  match n.station? m.id with
  | none => (.error (failure m c 404 "unknown node"), asked)
  | some s =>
    if s.failsSubscription then (.error (failure m c 500 "injected failure"), asked)
    else
      let new : Subscription := ⟨n.nextId, a, webhookUrl⟩
      (.ok n.nextId, asked.change m.id fun s => { s with subscriptions := s.subscriptions ++ [new] })

/-- Remove a webhook, which has to be one of the member's own. -/
def unsubscribe (n : Network) (m : Member) (id : SubscriptionId) : Except BrokerError Unit × Network :=
  let c := Call.unsubscribe id
  match n.station? m.id with
  | none => (.error (failure m c 404 "unknown node"), n)
  | some s =>
    if s.failsDeletion then (.error (failure m c 500 "injected failure"), n)
    else if s.subscriptions.all (·.id ≠ id) then (.error (failure m c 404 "no such subscription"), n)
    else
      let n := n.change m.id fun s => { s with subscriptions := s.subscriptions.filter (·.id ≠ id) }
      (.ok (), { n with deleted := n.deleted ++ [id] })

/-- A member's own id. -/
def discover (n : Network) (m : Member) : Except BrokerError NodeId :=
  match n.station? m.id with
  | none => .error (failure m .discover 404 "unknown node")
  | some s => if s.failsDiscovery then .error (failure m .discover 500 "injected failure") else .ok s.id

def isReady (n : Network) (m : Member) : Bool := n.stations.any fun s => s.id = m.id && s.ready

def addresses (m : Member) (target : Target) (s : Station) : Bool :=
  match target with
  | .node id => s.id = id
  | .everyone => s.id ≠ m.id

def addressed (n : Network) (m : Member) (a : AnalysisId) (target : Target) : List Subscription :=
  ((n.stations.filter (addresses m target)).flatMap (·.subscriptions)).filter (·.analysis = a)

/-- Post a message to a webhook, for the first time. -/
def deliver (message : Message) (n : Network) (s : Subscription) : Network :=
  { n with
    posts := n.posts ++ [⟨n.now, s.webhookUrl, message⟩]
    redeliveries := n.redeliveries ++ (n.redeliverEvery.map fun interval =>
      ⟨s.id, s.webhookUrl, message, max interval 1, n.now + max interval 1⟩).toList }

/-- Send a message. The send failures come first and count for every send; a delivery that is lost is
lost for good. -/
def send (n : Network) (m : Member) (a : AnalysisId) (target : Target) (message : Message) :
    Except BrokerError Unit × Network :=
  let refused (status : Nat) (text : String) :=
    Except.error (BrokerError.unexpectedStatus "message send" m.baseUrl status text)
  if 0 < n.failures then (refused 500 "injected send failure", { n with failures := n.failures - 1 })
  else match target with
    | .everyone => accept
    | .node id =>
      if (n.station? id).isNone then (refused 400 ("unknown recipient " ++ id.text), n) else accept
where
  accept : Except BrokerError Unit × Network :=
    let all := n.addressed m a target
    let accepted := { n with sent := n.sent + 1, drops := n.drops - all.length }
    (.ok (), (all.drop n.drops).foldl (deliver message) accepted)

/-- A repeated delivery falls due: it is made once more, or it ends with its subscription. -/
def tick (n : Network) (i : Nat) : Network :=
  match n.redeliveries[i]? with
  | none => n
  | some r =>
    let n := { n with now := max n.now r.due }
    if r.subscription ∈ n.active then
      { n with
        posts := n.posts ++ [⟨r.due, r.url, r.message⟩]
        redeliveries := n.redeliveries.set i { r with due := r.due + r.interval } }
    else { n with redeliveries := n.redeliveries.eraseIdx i }

/-- The repeated delivery that falls due first. -/
def nextDue (rs : List Redelivery) : Option (Nat × Nat) :=
  (rs.zipIdx.map fun (r, i) => (r.due, i)).foldl
    (fun best x => match best with
      | none => some x
      | some b => if x.1 < b.1 then some x else some b) none

/-- Time passes up to an instant; `fuel` bounds the deliveries that fall due by then. -/
def passWith : (fuel : Nat) → Network → (time : Nat) → Network
  | 0, n, time => { n with now := max n.now time }
  | fuel + 1, n, time =>
    match nextDue n.redeliveries with
    | none => { n with now := max n.now time }
    | some (due, i) =>
      if time < due then { n with now := max n.now time } else passWith fuel (n.tick i) time

/-- Time passes up to an instant. Each delivery is repeated at most once in a millisecond. -/
def pass (n : Network) (time : Nat) : Network :=
  passWith (n.redeliveries.foldl (fun sum r => sum + (time + 1 - r.due)) 0) n time

end Network

end BrokerTrial
