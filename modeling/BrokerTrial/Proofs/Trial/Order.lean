import Mathlib
import BrokerTrial.Proofs.Generation
import BrokerTrial.Proofs.Readiness.Course
import BrokerTrial.Proofs.Trial.Calls
import BrokerTrial.Proofs.Trial.Exchange
import BrokerTrial.Proofs.Trial.Invariance
import BrokerTrial.Trial.Rehearsal

/-!
# The calls of a run come phase by phase

Nodes are polled, then subscribed one after the other; one is discovered if the mode asks for it; then the
messages are sent, and in the end the subscriptions are deleted. A phase that fails is the last before the
deletions.
-/

namespace BrokerTrial

variable {σ : Type} {b : Brokers σ} {t : Trial}

/-! ### Polls -/

/-- Nodes are polled before the wait for them ends. -/
theorem Readiness.polls_le_outcome {τ : Type} {poll : Polling τ} {steady nodes timeout interval node : Nat} {s : τ}
    (there : node < nodes) :
    let w := watch poll steady nodes timeout interval s
    ∀ p ∈ (w.course node).polls, p ≤ (w.outcome nodes timeout).time := by
  intro w
  have timely : Timely timeout 0 (w.course node) :=
    watchFrom_timely (nodup_starts nodes) (inTime_starts timeout nodes)
      (List.mem_map_of_mem (List.mem_range.mpr there))
  unfold Watch.outcome
  split
  · rename_i last found
    obtain ⟨ready, is, early⟩ := (of_latest found).1 _ (List.mem_map_of_mem (List.mem_range.mpr there))
    exact fun p polled => ((timely.ready ready is).2 p polled).trans early
  · exact timely.polls

/-- All polls were made until an instant, and none if the wait for the nodes is disabled. -/
structure Polled (t : Trial) (polls : List (List Nat)) (time : Nat) : Prop where
  early : ∀ p ∈ polls.flatten, p ≤ time
  disabled : t.tuning.readiness.timeout = none → polls.flatten = []

theorem Polled.none (t : Trial) : Polled t [] 0 := ⟨by simp, fun _ => rfl⟩

theorem Trial.awaitNodes_polled (t : Trial) (b : Brokers σ) (s : σ) :
    Polled t (t.awaitNodes b s).1 (t.awaitNodes b s).2.takes := by
  unfold awaitNodes awaited
  split
  · exact ⟨by simp, by simp⟩
  · rename_i limit enabled
    refine ⟨fun p polled => ?_, fun disabled => by rw [disabled] at enabled; cases enabled⟩
    obtain ⟨polls, member, polled⟩ := List.mem_flatten.mp polled
    obtain ⟨node, known, rfl⟩ := List.mem_map.mp member
    exact Readiness.polls_le_outcome (List.mem_range.mp known) p polled

/-! ### How far a run comes -/

/-- The errors of a run in which not every message is handed over. -/
def TrialError.cutsShort : TrialError → Bool
  | generation _ | bind _ _ | readiness _ | subscription _ _ | discovery _ _ | senderDied => true
  | config _ | receiverTimeout _ | resultTimeout _ | verification _ | cleanup _ => false

/-- The run failed with an error, and has nothing to tell of what was sent and received. -/
structure Report.FailedWith (r : Report) (e : TrialError) : Prop where
  outcome : r.outcome = .error e
  received : r.received = []
  summary : r.summary = none

/-- The target of the messages, and the calls made to find it. -/
inductive Resolved (t : Trial) : Target → List Transaction → Prop where
  | everyone (broadcast : t.mode = .broadcast) : Resolved t .everyone []
  | node (dedicated : t.mode = .dedicated) (id : NodeId) :
      Resolved t (.node id) [.discover 1 t.analysis (.ok id)]

/-- The messages of a run were generated, and its collector has a webhook. -/
structure Furnished (t : Trial) (source : Entropy) (bind : String → Except String Address)
    (sent : List Message) (url : String) : Prop where
  generated : (Generation.run source t.messageCount t.tuning.messageLength).result = .ok sent
  bound : ∃ address, bind t.tuning.collector.bindAddress = .ok address ∧ url = t.webhookUrl address

structure Awaited (t : Trial) (b : Brokers σ) (source : Entropy) (bind : String → Except String Address)
    (s : σ) (sent : List Message) (url : String) : Prop extends Furnished t source bind sent url where
  ready : (t.awaitNodes b s).2.result = .ok ()

/-- How far a run came, with the subscriptions it made and all its calls but the deletions. -/
inductive Progress (t : Trial) (b : Brokers σ) (source : Entropy) (bind : String → Except String Address)
    (s : σ) (r : Report) (polls : List (List Nat)) : List (Nat × SubscriptionId) → List Transaction → Prop where
  | ungenerated (e : GenerationError)
      (failed : (Generation.run source t.messageCount t.tuning.messageLength).result = .error e)
      (unpolled : polls = []) (report : r.FailedWith (.generation e)) :
      Progress t b source bind s r polls [] []
  | unbound (reason : String)
      (generated : (Generation.run source t.messageCount t.tuning.messageLength).result = .ok r.sent)
      (failed : bind t.tuning.collector.bindAddress = .error reason)
      (unpolled : polls = []) (report : r.FailedWith (.bind t.tuning.collector.bindAddress reason)) :
      Progress t b source bind s r polls [] []
  | unready (url : String) (limit : Duration) (furnished : Furnished t source bind r.sent url)
      (enabled : t.tuning.readiness.timeout = some limit)
      (failed : (t.awaitNodes b s).2.result = .error (.readiness limit))
      (report : r.FailedWith (.readiness limit)) :
      Progress t b source bind s r polls [] []
  | unsubscribed (url : String) (made : List (Nat × SubscriptionId)) (node : Nat) (rest : List Nat)
      (e : BrokerError) (awaited : Awaited t b source bind s r.sent url)
      (receivers : made.map (·.1) ++ node :: rest = t.receivers)
      (report : r.FailedWith (.subscription (t.baseUrl node) e)) :
      Progress t b source bind s r polls made
        (subscribes t.analysis url made ++ [.subscribe node t.analysis url (.error e)])
  | undiscovered (url : String) (made : List (Nat × SubscriptionId)) (e : BrokerError)
      (awaited : Awaited t b source bind s r.sent url) (receivers : made.map (·.1) = t.receivers)
      (dedicated : t.mode = .dedicated) (report : r.FailedWith (.discovery (t.baseUrl 1) e)) :
      Progress t b source bind s r polls made
        (subscribes t.analysis url made ++ [.discover 1 t.analysis (.error e)])
  | died (url : String) (made : List (Nat × SubscriptionId)) (target : Target) (asked : List Transaction)
      (results : List Handover) (awaited : Awaited t b source bind s r.sent url)
      (receivers : made.map (·.1) = t.receivers) (resolved : Resolved t target asked)
      (handed : Handed r.sent results true) (report : r.FailedWith .senderDied) :
      Progress t b source bind s r polls made
        (subscribes t.analysis url made ++ asked ++ sends 0 t.analysis target r.sent results)
  | launched (url : String) (made : List (Nat × SubscriptionId)) (target : Target)
      (asked : List Transaction) (results : List Handover)
      (awaited : Awaited t b source bind s r.sent url) (receivers : made.map (·.1) = t.receivers)
      (resolved : Resolved t target asked) (count : r.sent.length = t.messageCount)
      (handed : Handed r.sent results false)
      (outcome : ∀ e, r.outcome = .error e → e.cutsShort = false) :
      Progress t b source bind s r polls made
        (subscribes t.analysis url made ++ asked ++ sends 0 t.analysis target r.sent results)

/-- The calls of a run that come before its deletions make its subscriptions and delete none. -/
structure Accounted (calls : List Transaction) (made : List (Nat × SubscriptionId)) : Prop where
  creations_eq : Transaction.creations calls = made
  deletions_eq : Transaction.deletions calls = []

theorem Accounted.append {calls more : List Transaction} {made : List (Nat × SubscriptionId)}
    (h : Accounted calls made) (others : Accounted more []) : Accounted (calls ++ more) made := by
  constructor
  · rw [Transaction.creations_append, h.creations_eq, others.creations_eq, List.append_nil]
  · rw [Transaction.deletions_append, h.deletions_eq, others.deletions_eq, List.append_nil]

theorem Progress.accounted {source : Entropy} {bind : String → Except String Address} {s : σ}
    {r : Report} {polls : List (List Nat)} {made : List (Nat × SubscriptionId)} {calls : List Transaction}
    (h : Progress t b source bind s r polls made calls) : Accounted calls made := by
  have subscribed (url : String) : Accounted (subscribes t.analysis url made) made :=
    ⟨Transaction.creations_subscribes .., Transaction.deletions_subscribes ..⟩
  have sent (target : Target) (results : List Handover) : Accounted (sends 0 t.analysis target r.sent results) [] :=
    ⟨Transaction.creations_sends .., Transaction.deletions_sends ..⟩
  have resolved {target : Target} {asked : List Transaction} (found : Resolved t target asked) : Accounted asked [] := by
    cases found with
    | everyone => exact ⟨rfl, rfl⟩
    | node => exact ⟨rfl, rfl⟩
  cases h with
  | ungenerated | unbound | unready => exact ⟨rfl, rfl⟩
  | unsubscribed url => exact (subscribed url).append ⟨rfl, rfl⟩
  | undiscovered url => exact (subscribed url).append ⟨rfl, rfl⟩
  | died url _ target asked results awaited receivers found =>
    exact ((subscribed url).append (resolved found)).append (sent target results)
  | launched url _ target asked results awaited receivers found =>
    exact ((subscribed url).append (resolved found)).append (sent target results)

namespace Trial

variable {source : Entropy} {bind : String → Except String Address} {s : σ} {sent : List Message}

/-- A wait with a chronicle is the wait without it, and leaves no entry. -/
theorem awaitNodes_chronicled (t : Trial) (b : Brokers σ) (s : σ) (c : Chronicle) :
    let waited := t.awaitNodes b s
    t.awaitNodes b.chronicled (s, c) =
      (waited.1, ⟨waited.2.result, waited.2.takes, (waited.2.state, c)⟩) := by
  intro waited
  have same := awaitNodes_map (t := t) (s := (s, c)) b.chronicled_simulates
  have kept : (t.awaitNodes b.chronicled (s, c)).2.state.2 = c :=
    awaitNodes_keeps (P := fun s : σ × Chronicle => s.2 = c) (fun _ _ _ kept => kept) rfl
  generalize t.awaitNodes b.chronicled (s, c) = x at same kept ⊢
  obtain ⟨polls, result, takes, s', c'⟩ := x
  rw [show waited = t.awaitNodes b s from rfl, ← same]
  cases kept
  rfl

theorem resolve_calls (t : Trial) (b : Brokers σ) (now : Nat) (s : σ × Chronicle) :
    let found := (t.resolve b.chronicled now s).2
    ∃ asked, Extended now (now + found.takes) s.2 found.state.2 asked ∧
      match found.result with
      | .ok target => Resolved t target asked
      | .error e => ∃ cause, t.mode = .dedicated ∧ e = .discovery (t.baseUrl 1) cause ∧
          asked = [.discover 1 t.analysis (.error cause)] := by
  unfold resolve
  split
  · rename_i broadcast
    exact ⟨[], .wait (Nat.le_refl now), .everyone broadcast⟩
  · rename_i dedicated
    have call := b.chronicled_discover 1 t.analysis now s
    dsimp only
    generalize b.chronicled.discover 1 t.analysis now s = d at call ⊢
    refine ⟨_, call, ?_⟩
    cases d.result with
    | ok id => exact .node dedicated id
    | error cause => exact ⟨cause, dedicated, rfl, rfl⟩

/-- What a run with an empty chronicle has done when its setup is over. -/
def SetUp (t : Trial) (b : Brokers σ) (source : Entropy) (bind : String → Except String Address) (s : σ) :
    Except (Attempt (σ × Chronicle)) (Launch (σ × Chronicle)) → Prop
  | .error a => ∃ ready calls, Polled t a.polls ready ∧ Extended ready a.time [] a.state.2 calls ∧
      Progress t b source bind s (t.finish b.chronicled a).report a.polls a.subscriptions calls
  | .ok l => ∃ ready url asked, Polled t l.polls ready ∧
      Extended ready l.time [] l.state.2 (subscribes t.analysis url l.subscriptions ++ asked) ∧
      Awaited t b source bind s l.sent url ∧ l.subscriptions.map (·.1) = t.receivers ∧
      Resolved t l.target asked

theorem prepare_calls {bound : Address}
    (generated : (Generation.run source t.messageCount t.tuning.messageLength).result = .ok sent)
    (bind_eq : bind t.tuning.collector.bindAddress = .ok bound) :
    SetUp t b source bind s (t.prepare b.chronicled sent bound (s, [])) := by
  have furnished : Furnished t source bind sent (t.webhookUrl bound) := ⟨generated, bound, bind_eq, rfl⟩
  have polled := t.awaitNodes_polled b s
  unfold prepare
  -- polls leave no entry, so the chronicle is still empty when the nodes are ready
  rw [awaitNodes_chronicled t b s []]
  dsimp only
  split
  · rename_i e failed
    obtain ⟨limit, enabled, rfl⟩ := awaitNodes_failed failed
    exact ⟨_, [], polled, .wait (Nat.le_refl _),
      .unready _ limit furnished enabled failed ⟨rfl, rfl, rfl⟩⟩
  · rename_i ready
    have awaited : Awaited t b source bind s sent (t.webhookUrl bound) := ⟨furnished, ready⟩
    obtain ⟨⟨rest, receivers, whole⟩, subscribed⟩ := Subscribing.run_calls b t.analysis (t.webhookUrl bound)
      t.receivers (t.awaitNodes b s).2.takes ((t.awaitNodes b s).2.state, [])
    generalize Subscribing.run b.chronicled t.analysis (t.webhookUrl bound) t.receivers
      (t.awaitNodes b s).2.takes ((t.awaitNodes b s).2.state, []) = x at receivers whole subscribed ⊢
    split
    · rename_i node e failure
      simp only [failure, Option.toList_some, List.map_singleton, List.append_assoc] at receivers subscribed
      exact ⟨_, _, polled, subscribed, .unsubscribed _ x.made node rest e awaited receivers ⟨rfl, rfl, rfl⟩⟩
    · rename_i all
      simp only [all, whole all, Option.toList_none, List.map_nil, List.append_nil] at receivers subscribed
      obtain ⟨asked, found, target⟩ := resolve_calls t b x.time x.state
      split
      · rename_i e failed
        rw [failed] at target
        obtain ⟨cause, dedicated, rfl, rfl⟩ := target
        exact ⟨_, _, polled, subscribed.trans found,
          .undiscovered _ x.made cause awaited receivers dedicated ⟨rfl, rfl, rfl⟩⟩
      · rename_i target' resolved
        rw [resolved] at target
        exact ⟨_, _, asked, polled, subscribed.trans found, awaited, receivers, target⟩

theorem setup_calls (t : Trial) (b : Brokers σ) (source : Entropy) (bind : String → Except String Address)
    (s : σ) : SetUp t b source bind s (t.setup b.chronicled source bind (s, [])) := by
  unfold setup
  split
  · rename_i e failed
    exact ⟨0, [], .none t, .wait (Nat.le_refl 0), .ungenerated e failed rfl ⟨rfl, rfl, rfl⟩⟩
  · rename_i sent generated
    dsimp only
    split
    · rename_i reason failed
      exact ⟨0, [], .none t, .wait (Nat.le_refl 0), .unbound reason generated failed rfl ⟨rfl, rfl, rfl⟩⟩
    · rename_i bound bind_eq
      exact prepare_calls generated bind_eq

theorem sending_calls (t : Trial) (b : Brokers σ) (l : Launch (σ × Chronicle)) :
    let sending := t.sending b.chronicled l
    ∃ results, Extended l.time sending.time l.state.2 sending.state.2
        (sends 0 t.analysis l.target l.sent results) ∧
      Handed l.sent results sending.died :=
  (Sending.run_calls b 0 t.analysis l.target l.sent l.time l.state).imp fun _ tells => ⟨tells.called, tells.handed⟩

theorem exchange_ends (t : Trial) (b : Brokers σ) (l : Launch σ) :
    let sending := t.sending b l
    let x := t.exchange b l
    sending.time ≤ x.time ∧ x.state = sending.state ∧
      match sending.died with
      | true => x.outcome = .error .senderDied ∧ x.received = [] ∧ x.summary = none
      | false => ∀ e, x.outcome = .error e → e.cutsShort = false := by
  intro sending x
  cases died : sending.died with
  | true =>
    have ends : x = _ := exchange_of_died died
    rw [ends]
    exact ⟨Nat.le_refl _, rfl, rfl, rfl, rfl⟩
  | false =>
    cases ended : (t.reception b l).ended with
    | none =>
      have ends : x = _ := exchange_of_endless died ended
      rw [ends]
      refine ⟨?_, rfl, fun e error => by cases error; rfl⟩
      dsimp only
      rw [limit_of_alive died]
      exact Nat.le_add_right ..
    | some quiet =>
      have ends : x = _ := exchange_of_ended died ended
      rw [ends]
      refine ⟨Nat.le_max_left .., rfl, fun e error => ?_⟩
      obtain ⟨judged, -⟩ | ⟨judged, -⟩ := t.judge_cases l.sent (t.reception b l).record
      · rw [judged] at error; cases error
      · rw [judged] at error; cases error; rfl

theorem attempt_calls (t : Trial) (b : Brokers σ) (source : Entropy)
    (bind : String → Except String Address) (s : σ) :
    let a := t.attempt b.chronicled source bind (s, [])
    ∃ ready calls, Polled t a.polls ready ∧ Extended ready a.time [] a.state.2 calls ∧
      Progress t b source bind s (t.finish b.chronicled a).report a.polls a.subscriptions calls := by
  have set := setup_calls t b source bind s
  cases setup : t.setup b.chronicled source bind (s, []) with
  | error a =>
    rw [setup] at set
    rw [attempt_of_error setup]
    exact set
  | ok l =>
    rw [setup] at set
    rw [attempt_of_ok setup]
    obtain ⟨ready, url, asked, polled, called, awaited, receivers, resolved⟩ := set
    obtain ⟨results, sending, handed⟩ := sending_calls t b l
    obtain ⟨time, state, ends⟩ := exchange_ends t b.chronicled l
    -- once the sends are over the receiver is waited for, and no one is called
    have exchanged : Extended ready (t.converse b.chronicled l).time [] (t.converse b.chronicled l).state.2
        (subscribes t.analysis url l.subscriptions ++ asked ++ sends 0 t.analysis l.target l.sent results) := by
      rw [converse, state]
      simpa only [List.append_nil] using (called.trans sending).trans (.wait time)
    refine ⟨ready, _, polled, exchanged, ?_⟩
    cases died : (t.sending b.chronicled l).died with
    | true =>
      rw [died] at ends handed
      exact .died url l.subscriptions l.target asked results awaited receivers resolved handed
        ⟨ends.1, ends.2.1, ends.2.2⟩
    | false =>
      rw [died] at ends handed
      exact .launched url l.subscriptions l.target asked results awaited receivers resolved
        (Generation.run_ok awaited.generated).1 handed ends

end Trial

/-- Whatever the brokers do, the calls of a run come phase by phase and none before the last poll. What
comes after them are deletions, one for each subscription that was made. -/
theorem calls_in_phases (t : Trial) (b : Brokers σ) (source : Entropy)
    (bind : String → Except String Address) (s : σ) :
    let r := t.run b source bind s
    let audit := t.run b.chronicled source bind (s, [])
    let log := audit.state.2
    audit.map Prod.fst = r ∧
    (t.tuning.readiness.timeout = none → r.polls.flatten = []) ∧
    (∀ poll ∈ r.polls.flatten, ∀ call ∈ log, poll ≤ call.1) ∧
    log.Pairwise (·.1 ≤ ·.1) ∧
    ∃ made calls results, Progress t b source bind s r.report r.polls made calls ∧
      Transaction.deletions calls = [] ∧ results.length = made.length ∧
      log.map (·.2) = calls ++ deletes t.analysis made results := by
  intro r audit log
  have same : audit.map Prod.fst = r := Trial.run_map b.chronicled_simulates fun _ _ _ _ _ => rfl
  obtain ⟨ready, calls, polled, called, progress⟩ := Trial.attempt_calls t b source bind s
  generalize attempt : t.attempt b.chronicled source bind (s, []) = a at polled called progress
  have finish : audit = t.finish b.chronicled a := congrArg (t.finish b.chronicled) attempt
  obtain ⟨results, length, deleted, -⟩ :=
    Cleanup.run_calls b t.baseUrl t.analysis a.subscriptions a.time a.state
  obtain ⟨-, new, log_eq, all, ordered, within⟩ := called.trans deleted
  have polls : r.polls = a.polls := by rw [← same, finish]; rfl
  have report : r.report = (t.finish b.chronicled a).report := by rw [← same, finish]; rfl
  have log_new : log = new := by
    rw [show log = audit.state.2 from rfl, finish]
    exact log_eq
  rw [polls, report, log_new]
  exact ⟨same, polled.disabled, fun poll asked call member =>
      (polled.early poll asked).trans (within call member).1,
    ordered, a.subscriptions, calls, results, progress, progress.accounted.deletions_eq, length, all⟩

def Trial.dedicatedOfTwo : Trial where
  analysis := ⟨"a"⟩
  messageCount := 2
  tuning := { messageLength := 1 }
  mode := .dedicated
  nodes := ["http://a", "http://b"]
  sound := rfl

/-- Every step before the sends succeeds, but the sender dies over the first message and the second is never
sent. -/
theorem calls_without_later_sends :
    let t := Trial.dedicatedOfTwo
    let b := (Rehearsal.ofNodes t.nodes fun k => { dies := k = 0 }).brokers fun _ => some "/results"
    let bound : Address := ⟨Address.loopback, 80⟩
    let audit := t.run b.chronicled (.counting 2 1) (fun _ => .ok bound) ({}, [])
    t.messageCount = 2 ∧ audit.report.sent.length = 2 ∧
    audit.state.2.map (·.2) =
      [.subscribe 1 t.analysis (t.webhookUrl bound) (.ok ⟨"sub-1"⟩),
       .discover 1 t.analysis (.ok ⟨"node-1"⟩),
       .send 0 t.analysis (.node ⟨"node-1"⟩) ⟨Generation.hex [0]⟩ .died,
       .unsubscribe 1 t.analysis ⟨"sub-1"⟩ (.ok ())] := by
  cbv

end BrokerTrial
