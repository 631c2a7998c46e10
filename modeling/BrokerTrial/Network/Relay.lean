import BrokerTrial.Network.Dispatch
import BrokerTrial.Network.History

/-!
# A network in small steps

Whatever takes time is taken apart, so that anything else may happen in between: a message is accepted, whether
its deliveries are repeated is looked up, and it is posted to one webhook after the other. A delivery that is
repeated may fall due at any time.
-/

namespace BrokerTrial

/-- A message on its way through a subscription. -/
structure Shipment where
  subscription : SubscriptionId
  url : String
  message : Message
  deriving DecidableEq, Repr

def Subscription.shipment (s : Subscription) (message : Message) : Shipment := ⟨s.id, s.webhookUrl, message⟩

def Redelivery.shipment (d : Redelivery) : Shipment := ⟨d.subscription, d.url, d.message⟩

namespace Network

/-- Send a message up to where it is posted, which is to those subscriptions whose delivery is not lost. -/
def route (n : Network) (x : Dispatch) : Except BrokerError (List Subscription) × Network :=
  match n.send x.sender x.analysis x.target x.message with
  | (.error e, after) => (.error e, after)
  | (.ok (), after) =>
    (.ok ((n.addressed x.sender x.analysis x.target).drop n.drops),
      { after with posts := n.posts, redeliveries := n.redeliveries })

def request (n : Network) (s : Shipment) : Network :=
  { n with posts := n.posts ++ [⟨n.now, s.url, s.message⟩] }

def repeatEvery (n : Network) (s : Shipment) (interval : Nat) : Network :=
  { n with
    redeliveries := n.redeliveries ++
      [⟨s.subscription, s.url, s.message, max interval 1, n.now + max interval 1⟩] }

/-- A message that is being posted. -/
structure Round where
  message : Message
  /-- Whether its deliveries are repeated and how often, once this has been looked up. -/
  every : Option (Option Nat) := none
  left : List Subscription
  /-- Whose webhook has been posted to and has not answered yet. -/
  under : Option Subscription := none
  deriving DecidableEq, Repr

namespace Round

/-- Whose webhook is posted to next, and the round from then on. -/
def start? (r : Round) : Option (Subscription × Round) :=
  match r.every, r.under, r.left with
  | some _, none, s :: rest => some (s, { r with left := rest, under := some s })
  | _, _, _ => none

/-- Whose webhook answers, what is to be done about repetitions, and the round from then on. -/
def answer? (r : Round) : Option (Subscription × Option Nat × Round) :=
  match r.every, r.under with
  | some every, some s => some (s, every, { r with under := none })
  | _, _ => none

def waiting (r : Round) : List Shipment := r.left.map (·.shipment r.message)

def underway (r : Round) : List Shipment := r.under.toList.map (·.shipment r.message)

end Round

/-- What goes on record. -/
inductive Entry where
  | accepted (x : Dispatch) (kept : List Subscription)
  | posted (s : Shipment)
  | repeated (s : Shipment)
  deriving DecidableEq, Repr

namespace Entry

/-- What is due because a message is accepted. -/
def due : Entry → List Shipment
  | accepted x kept => kept.map (·.shipment x.message)
  | posted _ | repeated _ => []

def first : Entry → List Shipment
  | posted s => [s]
  | accepted _ _ | repeated _ => []

def requests : Entry → List Shipment
  | posted s | repeated s => [s]
  | accepted _ _ => []

end Entry

/-- A network with the messages that are being posted in it, and a record of what was sent. -/
structure Relay extends History where
  rounds : List Round := []
  log : List Entry := []

/-- What happens next. Rounds are known by their number, and repetitions by their place. -/
inductive Event where
  | join (m : Member)
  | set (x : Setting)
  | subscribe (m : Member) (a : AnalysisId) (webhookUrl : String)
  | unsubscribe (m : Member) (id : SubscriptionId)
  | discover (m : Member)
  | send (x : Dispatch)
  | lookUp (k : Nat)
  | post (k : Nat)
  | answer (k : Nat)
  | tick (i : Nat)
  | elapse (time : Nat)
  deriving DecidableEq, Repr

namespace Relay

def entries (r : Relay) : Event → List Entry
  | .send x =>
    match (r.network.route x).1 with
    | .ok kept => [.accepted x kept]
    | .error _ => []
  | .post k =>
    match r.rounds[k]?.bind Round.start? with
    | some (s, round) => [.posted (s.shipment round.message)]
    | none => []
  | .tick i =>
    match r.network.redeliveries[i]? with
    | some d => if d.subscription ∈ r.network.active then [.repeated d.shipment] else []
    | none => []
  | _ => []

def change (r : Relay) : Event → Relay
  | .join m => { r with toHistory := r.toHistory.step (.join m) }
  | .set x => { r with toHistory := r.toHistory.step (.set x) }
  | .subscribe m a webhookUrl => { r with toHistory := r.toHistory.step (.subscribe m a webhookUrl) }
  | .unsubscribe m id => { r with toHistory := r.toHistory.step (.unsubscribe m id) }
  | .discover m => { r with toHistory := r.toHistory.step (.discover m) }
  | .send x =>
    match r.network.route x with
    | (.error _, network) => { r with network }
    | (.ok kept, network) => { r with network, rounds := r.rounds ++ [{ message := x.message, left := kept }] }
  | .lookUp k =>
    match r.rounds[k]? with
    | some round =>
      { r with rounds := r.rounds.set k { round with every := round.every <|> some r.network.redeliverEvery } }
    | none => r
  | .post k =>
    match r.rounds[k]?.bind Round.start? with
    | some (s, round) =>
      { r with network := r.network.request (s.shipment round.message), rounds := r.rounds.set k round }
    | none => r
  | .answer k =>
    match r.rounds[k]?.bind Round.answer? with
    | some (s, some interval, round) =>
      { r with
        network := r.network.repeatEvery (s.shipment round.message) interval
        rounds := r.rounds.set k round }
    | some (_, none, round) => { r with rounds := r.rounds.set k round }
    | none => r
  | .tick i => { r with network := r.network.tick i }
  | .elapse time => { r with network := { r.network with now := r.network.now + time } }

def step (r : Relay) (e : Event) : Relay := { r.change e with log := r.log ++ r.entries e }

def run (r : Relay) : List Event → Relay
  | [] => r
  | e :: rest => (r.step e).run rest

end Relay

end Network

end BrokerTrial
