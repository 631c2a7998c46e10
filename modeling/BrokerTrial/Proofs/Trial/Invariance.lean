import Mathlib
import BrokerTrial.Proofs.Readiness.Watch
import BrokerTrial.Proofs.Trial.Phases

/-!
# What a run keeps

A run waits for the nodes of its trial and then calls them, and no others. So what every call to them keeps, the run
keeps from the end of the wait on.
-/

namespace BrokerTrial

variable {σ : Type} {b : Brokers σ} {nodes : Nat} {a : AnalysisId} {P : σ → Prop}

/-- What is true of the brokers stays true when a node is called within an analysis. -/
structure Brokers.Keep (b : Brokers σ) (nodes : Nat) (a : AnalysisId) (P : σ → Prop) : Prop where
  subscribe : ∀ {node : Nat}, node < nodes → ∀ url now {s : σ}, P s → P (b.subscribe node a url now s).state
  discover : ∀ {node : Nat}, node < nodes → ∀ now {s : σ}, P s → P (b.discover node a now s).state
  send : ∀ {node : Nat}, node < nodes → ∀ target m now {s : σ}, P s → P (b.send node a target m now s).state
  unsubscribe : ∀ {node : Nat}, node < nodes → ∀ id now {s : σ}, P s → P (b.unsubscribe node a id now s).state

theorem Subscribing.run_keeps (keep : b.Keep nodes a P) {url : String} {receivers : List Nat}
    (there : ∀ node ∈ receivers, node < nodes) {now : Nat} {s : σ} (h : P s) :
    P (run b a url receivers now s).state ∧ ∀ p ∈ (run b a url receivers now s).made, p.1 < nodes := by
  induction receivers generalizing now s with
  | nil => exact ⟨h, fun p member => absurd member List.not_mem_nil⟩
  | cons node rest ih =>
    have here := there node List.mem_cons_self
    have next := keep.subscribe here url now h
    simp only [run]
    split
    · exact ⟨next, fun p member => absurd member List.not_mem_nil⟩
    · obtain ⟨kept, made⟩ := ih (fun node member => there node (List.mem_cons_of_mem _ member)) next
      refine ⟨kept, fun p member => ?_⟩
      rcases List.mem_cons.mp member with same | later
      · rw [same]
        exact here
      · exact made p later

theorem Sending.run_keeps (keep : b.Keep nodes a P) {node : Nat} (there : node < nodes) {target : Target}
    {messages : List Message} {now : Nat} {s : σ} (h : P s) :
    P (run b node a target messages now s).state := by
  induction messages generalizing now s with
  | nil => exact h
  | cons m rest ih =>
    have next := keep.send there target m now h
    simp only [run]
    split
    · exact ih next
    · exact ih next
    · exact next

theorem Cleanup.run_keeps (keep : b.Keep nodes a P) {baseUrl : Nat → String}
    {subscriptions : List (Nat × SubscriptionId)} (there : ∀ p ∈ subscriptions, p.1 < nodes) {now : Nat} {s : σ}
    (h : P s) : P (run b baseUrl a subscriptions now s).state := by
  induction subscriptions generalizing now s with
  | nil => exact h
  | cons p rest ih =>
    obtain ⟨node, id⟩ := p
    have next := keep.unsubscribe (there _ List.mem_cons_self) id now h
    have others : ∀ p ∈ rest, p.1 < nodes := fun p member => there p (List.mem_cons_of_mem _ member)
    simp only [run]
    split
    · exact ih others next
    · exact ih others next

namespace Trial

variable {t : Trial} {source : Entropy} {bind : String → Except String Address} {s : σ}

/-- The brokers are as they should be, and subscriptions have been made at nodes of the trial alone. -/
structure Kept (t : Trial) (P : σ → Prop) (subscriptions : List (Nat × SubscriptionId)) (s : σ) : Prop where
  state : P s
  there : ∀ p ∈ subscriptions, p.1 < t.nodes.length

/-- What an attempt leaves behind: nothing has changed, or its nodes have been waited for and what they had come to
has been kept. -/
inductive Attempt.Kept (t : Trial) (b : Brokers σ) (s : σ) (P : σ → Prop) (a : Attempt σ) : Prop where
  | unchanged (polls : a.polls = []) (subscriptions : a.subscriptions = []) (state : a.state = s)
  | waited (polls : a.polls = (t.awaitNodes b s).1) (kept : t.Kept P a.subscriptions a.state)

def SetupKept (t : Trial) (b : Brokers σ) (s : σ) (P : σ → Prop) : Except (Attempt σ) (Launch σ) → Prop
  | .error a => Attempt.Kept t b s P a
  | .ok l => l.polls = (t.awaitNodes b s).1 ∧ t.Kept P l.subscriptions l.state

theorem resolve_keeps (keep : b.Keep t.nodes.length t.analysis P) {now : Nat} (h : P s) :
    P (t.resolve b now s).2.state := by
  obtain ⟨-, enough, -⟩ := t.sound_parts
  unfold resolve
  cases mode : t.mode with
  | broadcast => exact h
  | dedicated =>
    rw [mode] at enough
    exact keep.discover (Nat.lt_of_lt_of_le (by decide) enough) now h

theorem awaited_state (limit : Duration) (w : Watch σ) : (t.awaited limit w).2.state = w.state := rfl

theorem awaitNodes_keeps
    (keeps : ∀ {node : Nat}, node < t.nodes.length → ∀ now {s : σ}, P s → P (b.poll node now s).2) (h : P s) :
    P (t.awaitNodes b s).2.state := by
  unfold awaitNodes
  split
  · exact h
  · rw [awaited_state]
    exact Readiness.watch_keeps keeps h

theorem prepare_keeps (keep : b.Keep t.nodes.length t.analysis P) (h : P (t.awaitNodes b s).2.state)
    {sent : List Message} {bound : Address} : t.SetupKept b s P (t.prepare b sent bound s) := by
  unfold prepare
  dsimp only
  split
  · exact .waited rfl ⟨h, fun _ member => absurd member List.not_mem_nil⟩
  · obtain ⟨subscribed, there⟩ := Subscribing.run_keeps keep
      (fun node receives => (t.receivers_between receives).2) h
    split
    · exact .waited rfl ⟨subscribed, there⟩
    · split
      · exact .waited rfl ⟨resolve_keeps keep subscribed, there⟩
      · exact ⟨rfl, resolve_keeps keep subscribed, there⟩

theorem setup_keeps (keep : b.Keep t.nodes.length t.analysis P) (h : P (t.awaitNodes b s).2.state) :
    t.SetupKept b s P (t.setup b source bind s) := by
  unfold setup
  split
  · exact .unchanged rfl rfl rfl
  · dsimp only
    split
    · exact .unchanged rfl rfl rfl
    · exact prepare_keeps keep h

theorem attempt_keeps (keep : b.Keep t.nodes.length t.analysis P) (h : P (t.awaitNodes b s).2.state) :
    Attempt.Kept t b s P (t.attempt b source bind s) := by
  have kept : t.SetupKept b s P (t.setup b source bind s) := setup_keeps keep h
  obtain ⟨-, enough, -⟩ := t.sound_parts
  have first : 0 < t.nodes.length := Nat.lt_of_lt_of_le (by cases t.mode <;> decide) enough
  cases setup : t.setup b source bind s with
  | error a =>
    rw [setup] at kept
    rw [attempt_of_error setup]
    exact kept
  | ok l =>
    rw [setup] at kept
    rw [attempt_of_ok setup]
    -- of all that an exchange is made of, only the sending calls a node
    have state : (t.converse b l).state = (t.sending b l).state := by
      simp only [converse, exchange]
      repeat' split
      all_goals rfl
    refine .waited kept.1 ⟨?_, kept.2.there⟩
    rw [state]
    exact Sending.run_keeps keep first kept.2.state

/-- A run that waits for its nodes keeps from there on what every call to them keeps. One that does not come to that
changes nothing. -/
theorem run_keeps (keep : b.Keep t.nodes.length t.analysis P) (h : P (t.awaitNodes b s).2.state) (source : Entropy)
    (bind : String → Except String Address) :
    let r := t.run b source bind s
    r.polls = [] ∧ r.state = s ∨ r.polls = (t.awaitNodes b s).1 ∧ P r.state := by
  have kept : Attempt.Kept t b s P (t.attempt b source bind s) := attempt_keeps keep h
  cases kept with
  | unchanged polls subscriptions state =>
    refine Or.inl ⟨polls, ?_⟩
    simp only [run, finish, subscriptions, Cleanup.run, state]
  | waited polls kept => exact Or.inr ⟨polls, Cleanup.run_keeps keep kept.there kept.state⟩

/-- A run binds one address and asks after no other. -/
theorem run_bind {other : String → Except String Address}
    (same : other t.tuning.collector.bindAddress = bind t.tuning.collector.bindAddress) :
    t.run b source other s = t.run b source bind s := by
  simp only [run, attempt, setup, same]

end Trial

end BrokerTrial
