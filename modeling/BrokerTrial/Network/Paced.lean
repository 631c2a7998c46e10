import BrokerTrial.Network.Brokers

/-!
# A network whose requests take time

A message is posted to one webhook after the other, and only when the last of them has answered is the
sender told that it was sent. How long each request takes is laid down beforehand.
-/

namespace BrokerTrial

/-- How long a request is under way: until it arrives, and from there until its answer is back. -/
structure Pace where
  there : Nat := 0
  back : Nat := 0
  deriving DecidableEq, Repr

namespace Network

/-- Post a message to a webhook, for the first time. A repetition is due an interval after the answer. -/
def deliverPaced (p : Pace) (message : Message) (n : Network) (s : Subscription) : Network :=
  let arrived := n.now + p.there
  let answered := arrived + p.back
  { n with
    posts := n.posts ++ [⟨arrived, s.webhookUrl, message⟩]
    redeliveries := n.redeliveries ++ (n.redeliverEvery.map fun interval =>
      ⟨s.id, s.webhookUrl, message, max interval 1, answered + max interval 1⟩).toList
    now := answered }

/-- Send a message. It is accepted or not as it would be if requests took no time. -/
def sendPaced (pace : Nat → Pace) (n : Network) (m : Member) (a : AnalysisId) (target : Target)
    (message : Message) : Except BrokerError Unit × Network :=
  match n.send m a target message with
  | (.error e, after) => (.error e, after)
  | (.ok (), after) =>
    (.ok (), ((n.addressed m a target).drop n.drops).foldl
      (fun n s => n.deliverPaced (pace n.posts.length) message s)
      { after with posts := n.posts, redeliveries := n.redeliveries })

/-- The brokers of some members if requests to webhooks take time; `pace` gives it for each request by its
number, counted from zero. -/
def pacedBrokers (members : List Member) (route : String → Option String) (pace : Nat → Pace) :
    Brokers Network :=
  { brokers members route with
    send := fun node a target m now n =>
      let n := n.pass now
      match n.sendPaced pace (members.getD node ⟨"", ⟨""⟩⟩) a target m with
      | (.ok (), after) => ⟨.accepted, after.now - n.now, after⟩
      | (.error e, after) => ⟨.refused e, after.now - n.now, after⟩ }

end Network

end BrokerTrial
