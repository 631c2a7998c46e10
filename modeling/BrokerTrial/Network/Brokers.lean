import BrokerTrial.Network
import BrokerTrial.Trial.Brokers

/-!
# A network behind a trial

The brokers of a network in memory as the brokers of a trial. Calls to them take no time.
-/

namespace BrokerTrial.Network

/-- The network up to an instant, with the result of a call at it. -/
def callAt {α : Type} (now : Nat) (n : Network) (call : Network → α × Network) : Done Network α :=
  let (result, state) := call (n.pass now)
  { result, takes := 0, state }

/-- The brokers of some members, node by node. `route` says which webhooks lead to the collector, and to
what target there. -/
def brokers (members : List Member) (route : String → Option String) : Brokers Network :=
  let member (node : Nat) : Member := members.getD node ⟨"", ⟨""⟩⟩
  { poll := fun node _ n => (⟨if n.isReady (member node) then .ready else .notReady, some 0⟩, n)
    subscribe := fun node a url now n => callAt now n fun n => n.subscribe (member node) a url
    discover := fun node _ now n => callAt now n fun n => (n.discover (member node), n)
    send := fun node a target m now n => callAt now n fun n =>
      match n.send (member node) a target m with
      | (.ok (), n) => (.accepted, n)
      | (.error e, n) => (.refused e, n)
    unsubscribe := fun node _ id now n => callAt now n fun n => n.unsubscribe (member node) id
    traffic := fun n last => (n.pass last).posts.filterMap fun post =>
      (route post.url).map fun target =>
        (post.time, { target, body := post.message.json.toUTF8 }) }

end BrokerTrial.Network
