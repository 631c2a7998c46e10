import BrokerTrial.Http.Script
import BrokerTrial.Main
import BrokerTrial.Inbox.Intake
import BrokerTrial.Reception.Feed
import BrokerTrial.Readiness.Vigil
import BrokerTrial.Generation.Keyspace
import BrokerTrial.Network.History
import BrokerTrial.Network.Paced
import BrokerTrial.Network.Dispatch
import BrokerTrial.Token.Callers
import BrokerTrial.Token.Turns
import BrokerTrial.Trial.Rehearsal
import BrokerTrial.Proofs.Generation
import BrokerTrial.Proofs.Generation.Hex
import BrokerTrial.Proofs.Generation.Draws
import BrokerTrial.Proofs.Generation.Keyspace
import BrokerTrial.Proofs.Message
import BrokerTrial.Proofs.Verification
import BrokerTrial.Proofs.Verification.Details
import BrokerTrial.Proofs.Trial.Phases
import BrokerTrial.Proofs.Trial.Verdict
import BrokerTrial.Proofs.Trial.Simulation
import BrokerTrial.Proofs.Trial.Calls
import BrokerTrial.Proofs.Trial.Cleanup
import BrokerTrial.Proofs.Trial.Exchange
import BrokerTrial.Proofs.Trial.Order
import BrokerTrial.Proofs.Trial.Bounds
import BrokerTrial.Proofs.Trial.Room
import BrokerTrial.Proofs.Inbox
import BrokerTrial.Proofs.Inbox.Intake
import BrokerTrial.Proofs.Reception.Acknowledgement
import BrokerTrial.Proofs.Reception.Quiescence
import BrokerTrial.Proofs.Reception.Drain
import BrokerTrial.Proofs.Reception.Feed
import BrokerTrial.Proofs.Readiness.Course
import BrokerTrial.Proofs.Readiness.Vigil
import BrokerTrial.Proofs.Readiness.Watch
import BrokerTrial.Proofs.Token.Cache
import BrokerTrial.Proofs.Token.Calls
import BrokerTrial.Proofs.Token.Callers
import BrokerTrial.Proofs.Token.Turns
import BrokerTrial.Proofs.Network.Health
import BrokerTrial.Proofs.Network.Bookkeeping
import BrokerTrial.Proofs.Network.Dispatch
import BrokerTrial.Proofs.Network.Trial
import BrokerTrial.Proofs.Network.Sending
import BrokerTrial.Broker.Body
import BrokerTrial.Broker.Errand
import BrokerTrial.Proofs.Broker.Body
import BrokerTrial.Proofs.Http
import BrokerTrial.Proofs.Broker.Calls
import BrokerTrial.Network.Relay
import BrokerTrial.Proofs.Network.Redelivery
import BrokerTrial.Broker.Glimpse
import BrokerTrial.Proofs.Broker.Secrecy
import BrokerTrial.Broker.Watched
import BrokerTrial.Proofs.Trial.Invariance
import BrokerTrial.Proofs.Broker.Watched
import BrokerTrial.Proofs.Command
import BrokerTrial.Json.Grammar
import BrokerTrial.Proofs.Json.Grammar
import BrokerTrial.Proofs.Message.Form
import BrokerTrial.Proofs.Toml.Distinct
import BrokerTrial.Proofs.Tuning.File
import BrokerTrial.Proofs.Trial.Silence
import BrokerTrial.Proofs.Generation.Framing
import BrokerTrial.Proofs.Text.Utf8
import BrokerTrial.Proofs.Message.Order
import BrokerTrial.Proofs.Url
import BrokerTrial.Proofs.Broker.Resource
