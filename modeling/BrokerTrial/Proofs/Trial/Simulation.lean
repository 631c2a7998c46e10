import Mathlib
import BrokerTrial.Proofs.Trial.Phases
import BrokerTrial.Proofs.Readiness.Watch
import BrokerTrial.Trial.Chronicle

/-!
# Brokers that behave alike

Brokers that differ only in what they remember bring every run to the same end. The first result leaves
deletions out and reaches as far as the cleanup, so it also compares brokers that only delete differently.
-/

namespace BrokerTrial

variable {σ τ : Type}

/-! ### Ends that differ in the state of the brokers -/

def Done.map {α : Type} (f : τ → σ) (d : Done τ α) : Done σ α := ⟨d.result, d.takes, f d.state⟩

def Subscribing.map (f : τ → σ) (x : Subscribing τ) : Subscribing σ := { x with state := f x.state }

def Sending.map (f : τ → σ) (x : Sending τ) : Sending σ := { x with state := f x.state }

def Cleanup.map (f : τ → σ) (x : Cleanup τ) : Cleanup σ := { x with state := f x.state }

def Launch.map (f : τ → σ) (l : Launch τ) : Launch σ := { l with state := f l.state }

def Exchange.map (f : τ → σ) (x : Exchange τ) : Exchange σ := { x with state := f x.state }

def Attempt.map (f : τ → σ) (a : Attempt τ) : Attempt σ := { a with state := f a.state }

def Run.map (f : τ → σ) (r : Run τ) : Run σ := { r with state := f r.state }

namespace Brokers

/-- Up to what `f` forgets, `b'` does until the cleanup what `b` does. -/
structure Simulates (f : τ → σ) (b' : Brokers τ) (b : Brokers σ) : Prop where
  poll : ∀ node now s, Prod.map id f (b'.poll node now s) = b.poll node now (f s)
  steady : ∀ s, b'.steady s = b.steady (f s)
  subscribe : ∀ node a url now s, (b'.subscribe node a url now s).map f = b.subscribe node a url now (f s)
  discover : ∀ node a now s, (b'.discover node a now s).map f = b.discover node a now (f s)
  send : ∀ node a target m now s, (b'.send node a target m now s).map f = b.send node a target m now (f s)
  traffic : ∀ s last, b'.traffic s last = b.traffic (f s) last

theorem chronicled_simulates (b : Brokers σ) : Simulates Prod.fst b.chronicled b where
  poll _ _ _ := rfl
  steady _ := rfl
  subscribe _ _ _ _ _ := rfl
  discover _ _ _ _ := rfl
  send _ _ _ _ _ _ := rfl
  traffic _ _ := rfl

end Brokers

variable {f : τ → σ} {b' : Brokers τ} {b : Brokers σ} {t : Trial} {s : τ} {now : Nat}

theorem Subscribing.run_map (sim : b'.Simulates f b) {a : AnalysisId} {url : String} {nodes : List Nat} :
    (run b' a url nodes now s).map f = run b a url nodes now (f s) := by
  induction nodes generalizing now s with
  | nil => rfl
  | cons node rest ih =>
    have call := sim.subscribe node a url now s
    simp only [run, ← call, ← ih, Done.map]
    split <;> rfl

theorem Sending.run_map (sim : b'.Simulates f b) {node : Nat} {a : AnalysisId} {target : Target}
    {messages : List Message} :
    (run b' node a target messages now s).map f = run b node a target messages now (f s) := by
  induction messages generalizing now s with
  | nil => rfl
  | cons m rest ih =>
    have call := sim.send node a target m now s
    simp only [run, ← call, ← ih, Done.map]
    split <;> rfl

theorem Cleanup.run_map
    (same : ∀ node a id now s, (b'.unsubscribe node a id now s).map f = b.unsubscribe node a id now (f s))
    {baseUrl : Nat → String} {a : AnalysisId} {subscriptions : List (Nat × SubscriptionId)} :
    (run b' baseUrl a subscriptions now s).map f = run b baseUrl a subscriptions now (f s) := by
  induction subscriptions generalizing now s with
  | nil => rfl
  | cons pair rest ih =>
    obtain ⟨node, id⟩ := pair
    have call := same node a id now s
    simp only [run, ← call, ← ih, Done.map]
    split <;> rfl

namespace Trial

theorem awaited_map (limit : Duration) (w : Watch τ) :
    ((t.awaited limit w).1, (t.awaited limit w).2.map f) = t.awaited limit (w.map f) := rfl

theorem awaitNodes_map (sim : b'.Simulates f b) :
    ((t.awaitNodes b' s).1, (t.awaitNodes b' s).2.map f) = t.awaitNodes b (f s) := by
  unfold awaitNodes
  split
  · rfl
  · rw [awaited_map, Readiness.watch, Readiness.watch, sim.steady, Readiness.watchFrom_map sim.poll s]

theorem resolve_map (sim : b'.Simulates f b) :
    ((t.resolve b' now s).1, (t.resolve b' now s).2.map f) = t.resolve b now (f s) := by
  unfold resolve
  simp only [← sim.discover]
  split <;> rfl

def mapSetup (f : τ → σ) : Except (Attempt τ) (Launch τ) → Except (Attempt σ) (Launch σ)
  | .error a => .error (a.map f)
  | .ok l => .ok (l.map f)

theorem prepare_map (sim : b'.Simulates f b) {sent : List Message} {bound : Address} :
    mapSetup f (t.prepare b' sent bound s) = t.prepare b sent bound (f s) := by
  unfold prepare
  simp only [← awaitNodes_map sim, ← Subscribing.run_map sim, ← resolve_map sim, Done.map, Subscribing.map]
  split
  · rfl
  · split
    · rfl
    · split <;> rfl

theorem setup_map (sim : b'.Simulates f b) (source : Entropy)
    (bind : String → Except String Address) (s : τ) :
    mapSetup f (t.setup b' source bind s) = t.setup b source bind (f s) := by
  unfold setup
  split
  · rfl
  · dsimp only
    split
    · rfl
    · exact prepare_map sim

theorem exchange_map (sim : b'.Simulates f b) {l : Launch τ} :
    (t.exchange b' l).map f = t.exchange b (l.map f) := by
  have sent : (t.sending b' l).map f = t.sending b (l.map f) := Sending.run_map sim
  have limit : t.limit b' l = t.limit b (l.map f) := by
    simp only [limit, ← sent, Sending.map]
  have came : t.arrivals b' l = t.arrivals b (l.map f) := by
    simp only [arrivals, Brokers.arrivals, sim.traffic, limit, ← sent, Sending.map]
  have received : t.reception b' l = t.reception b (l.map f) := by
    rw [reception, reception, opening, opening, came, limit]
    rfl
  simp only [exchange, ← sent, ← limit, ← received, Sending.map]
  split
  · rfl
  · split
    · rfl
    · split <;> rfl

theorem attempt_map (sim : b'.Simulates f b) (source : Entropy)
    (bind : String → Except String Address) (s : τ) :
    (t.attempt b' source bind s).map f = t.attempt b source bind (f s) := by
  have setup := setup_map (t := t) sim source bind s
  unfold attempt
  rw [← setup]
  cases t.setup b' source bind s with
  | error a => rfl
  | ok l =>
    simp only [mapSetup, converse, ← exchange_map sim]
    rfl

theorem run_map (sim : b'.Simulates f b)
    (same : ∀ node a id now s, (b'.unsubscribe node a id now s).map f = b.unsubscribe node a id now (f s))
    {source : Entropy} {bind : String → Except String Address} :
    (t.run b' source bind s).map f = t.run b source bind (f s) := by
  unfold run
  rw [← attempt_map sim]
  simp only [finish, Attempt.map, ← Cleanup.run_map same]
  rfl

end Trial

end BrokerTrial
