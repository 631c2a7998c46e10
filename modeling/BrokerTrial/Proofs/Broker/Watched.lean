import Mathlib
import BrokerTrial.Broker.Watched
import BrokerTrial.Proofs.Broker.Calls
import BrokerTrial.Proofs.Trial.Invariance
import BrokerTrial.Proofs.Trial.Simulation

/-!
# What a fleet sends for each of its nodes

The requests made for a node are those of its own endpoint, and those for a token of the issuer that the nodes
share. To watch them changes nothing.
-/

namespace BrokerTrial

variable {σ : Type} {link : Http.Link σ} {node : Nat} {P : Http.Request → Prop}

/-! ### Sessions over a link that takes notes -/

/-- Nothing has been noted since but requests of a kind, and for one node. -/
def Notes.Since (before : Notes) (node : Nat) (P : Http.Request → Prop) (now : Notes) : Prop :=
  ∃ new, now = before ++ new ∧ ∀ x ∈ new, x.1 = node ∧ P x.2

theorem Notes.Since.refl (before : Notes) : before.Since node P before :=
  ⟨[], (List.append_nil _).symm, fun _ member => absurd member List.not_mem_nil⟩

theorem Notes.Since.concat {before now : Notes} (h : before.Since node P now) {r : Http.Request} (kind : P r) :
    before.Since node P (now ++ [(node, r)]) := by
  obtain ⟨new, same, all⟩ := h
  refine ⟨new ++ [(node, r)], by rw [same, List.append_assoc], fun x member => ?_⟩
  rcases List.mem_append.mp member with old | last
  · exact all x old
  · rw [List.mem_singleton.mp last]
    exact ⟨rfl, kind⟩

/-- What a link has come to with notes is what it has come to, and the notes are of one kind. -/
def Signed (before : Notes) (node : Nat) (P : Http.Request → Prop) (x : σ × Notes) (x' : σ) : Prop :=
  x.1 = x' ∧ before.Since node P x.2

theorem signed_corresponds (link : Http.Link σ) (before : Notes) (node : Nat) (P : Http.Request → Prop) :
    (link.signed node).Corresponds link (fun r r' => r = r' ∧ P r) (Signed before node P) where
  url same := congrArg Http.Request.url same.1
  outcome := by
    rintro r _ s _ ⟨rfl, kind⟩ ⟨rfl, notes⟩ limit
    rfl
  after := by
    rintro r _ s _ ⟨rfl, kind⟩ ⟨rfl, notes⟩ limit
    exact ⟨rfl, notes.concat kind⟩

namespace Session

theorem Alike.map_eq {before : Notes} {s : Session (σ × Notes)} {s' : Session σ}
    (h : s.Alike (Signed before node P) s') : s' = s.map Prod.fst :=
  (over_eq ⟨h.link.1, h.now, h.kept⟩).symm

end Session

/-! ### Calls to one node -/

namespace Endpoint

variable {e : Endpoint} {i : Issuer} {a : AnalysisId} {c : Call}

/-- What each poll of an endpoint sends, unless its address will not do. -/
def asked? (e : Endpoint) : Option Http.Request :=
  (Http.Draft.build { method := .get, url := e.readinessUrl }).toOption

/-- The requests that a call to an endpoint makes. -/
inductive Sends (e : Endpoint) (i : Issuer) (a : AnalysisId) (r : Http.Request) : Prop where
  | token (builds : i.draft.Builds r)
  | call (c : Call) (token : String) (carries : e.Carries a c token r)

theorem drafts_sends (e : Endpoint) (i : Issuer) (a : AnalysisId) (c : Call) :
    e.Drafts a c (fun r r' => r = r' ∧ e.Sends i a r) Eq := by
  rintro t _ rfl
  exact Http.Draft.corresponds_self fun r builds => ⟨rfl, .call c t (carries_of_builds builds)⟩

theorem twins_signed (e : Endpoint) (i : Issuer) (a : AnalysisId) (link : Http.Link σ) (before : Notes)
    (node : Nat) :
    Twins (link.signed node) link (Signed before node (e.Sends i a)) Eq (TokenSource.issued i)
      (TokenSource.issued i) := by
  intro s s' h
  have drafts : i.draft.Corresponds (fun r r' => r = r' ∧ e.Sends i a r) i.draft :=
    Http.Draft.corresponds_self fun r builds => ⟨rfl, .token builds⟩
  obtain ⟨result, t, t', noted, plain, after⟩ :=
    h.token (signed_corresponds link before node (e.Sends i a)) drafts rfl
  exact ⟨result, result, t, t', noted, plain, .refl result, after⟩

theorem poll_signed (e : Endpoint) (link : Http.Link σ) (node : Nat) (s : Session (σ × Notes)) :
    Prod.map id (Session.map Prod.fst) (e.poll (link.signed node) s) = e.poll link (s.map Prod.fst) ∧
      (e.poll (link.signed node) s).2.link.2 = s.link.2 ++ (e.asked?.map fun r => (node, r)).toList := by
  unfold poll isReady asked?
  cases built : Http.Draft.build { method := .get, url := e.readinessUrl } with
  | error f =>
    rw [Session.transmit_of_error built, Session.transmit_of_error built]
    exact ⟨rfl, (List.append_nil _).symm⟩
  | ok r =>
    rw [Session.transmit_of_ok built, Session.transmit_of_ok built]
    simp only [Http.Link.signed, Session.map, Session.over]
    cases (link r e.timeout.ceilMillis s.link.1).1.received r with
    | error f => exact ⟨rfl, rfl⟩
    | ok reply => exact ⟨rfl, rfl⟩

end Endpoint

namespace Fleet

variable {f : Fleet} {i : Issuer} {traffic : σ → (last : Nat) → List (Nat × Delivery)} {a : AnalysisId}

open Session (Meet)

theorem call_noted {α : Type} {make : Session (σ × Notes) → α × Session (σ × Notes)}
    {plain : Session σ → α × Session σ} {s : Session (σ × Notes)} {now : Nat}
    (meets : ∀ {t t'}, t.Alike (Signed s.link.2 node P) t' →
      Meet (Signed s.link.2 node P) (make t) (plain t')) :
    (call now s make).map (Session.map Prod.fst) = call now (s.map Prod.fst) plain ∧
      s.link.2.Since node P (call now s make).state.link.2 := by
  have start : Session.Alike (Signed s.link.2 node P) { s with now := now }
      { s.map Prod.fst with now := now } := ⟨⟨rfl, .refl _⟩, rfl, rfl⟩
  obtain ⟨result, t, t', noted, same, after⟩ := meets start
  unfold call
  rw [noted, same, after.map_eq]
  exact ⟨rfl, after.link.2⟩

/-! ### Polls of a fleet -/

section

variable {timeout interval fuel : Nat} {due : List (Nat × Nat)}

theorem poll_noted (f : Fleet) (link : Http.Link σ) (node now : Nat) (s : Session (σ × Notes)) :
    Prod.map id (Session.map Prod.fst) (f.poll link.signed node now s) =
        f.poll (fun _ => link) node now (s.map Prod.fst) ∧
      (f.poll link.signed node now s).2.link.2 =
        s.link.2 ++ ((f.endpoint node).asked?.map fun r => (node, r)).toList :=
  (f.endpoint node).poll_signed link node { s with now := now }

/-- The requests of some polls, each with its node. -/
def asked (f : Fleet) (polls : List (Nat × Nat)) : Notes :=
  polls.filterMap fun x => (f.endpoint x.1).asked?.map fun r => (x.1, r)

/-- A wait sends its polls and nothing else, in order. -/
theorem watchFrom_noted (s : Session (σ × Notes)) :
    let w := Readiness.watchFrom (f.poll link.signed) timeout interval fuel due s
    w.state.link.2 = s.link.2 ++ f.asked w.polls := by
  induction fuel generalizing due s with
  | zero => exact (List.append_nil _).symm
  | succ fuel ih =>
    cases due with
    | nil => exact (List.append_nil _).symm
    | cons x due =>
      have noted := (f.poll_noted link x.1 x.2 s).2
      dsimp only [Readiness.watchFrom, Watch.before]
      rw [ih, noted, asked, asked, List.filterMap_cons, List.append_assoc]
      cases (f.endpoint x.1).asked? <;> rfl

theorem asked_filter (polls : List (Nat × Nat)) (node : Nat) :
    ((f.asked polls).filter (·.1 == node)).map (·.2) =
      ((polls.filter (·.1 == node)).map (·.2)).filterMap fun _ => (f.endpoint node).asked? := by
  induction polls with
  | nil => rfl
  | cons x rest ih =>
    obtain ⟨other, now⟩ := x
    by_cases same : other = node
    · subst same
      cases request : (f.endpoint other).asked? with
      | none => simpa [asked, request] using ih
      | some r => simpa [asked, request] using ih
    · cases request : (f.endpoint other).asked? with
      | none => simpa [asked, request, same] using ih
      | some r => simpa [asked, request, same] using ih

end

/-! ### Calls to a fleet -/

variable (shared : f.source = .issued i)

include shared

theorem watched_subscribe (node : Nat) (url : String) (now : Nat) (s : Session (σ × Notes)) :
    ((f.watched link traffic).subscribe node a url now s).map (Session.map Prod.fst) =
        (f.brokers link traffic).subscribe node a url now (s.map Prod.fst) ∧
      s.link.2.Since node ((f.endpoint node).Sends i a)
        ((f.watched link traffic).subscribe node a url now s).state.link.2 := by
  unfold watched brokers brokersOver
  rw [shared]
  dsimp only
  exact call_noted fun h => Endpoint.subscribe_meet (signed_corresponds link _ node _)
    ((f.endpoint node).twins_signed i a link _ node) ((f.endpoint node).drafts_sends i a (.subscribe url)) h

theorem watched_discover (node now : Nat) (s : Session (σ × Notes)) :
    ((f.watched link traffic).discover node a now s).map (Session.map Prod.fst) =
        (f.brokers link traffic).discover node a now (s.map Prod.fst) ∧
      s.link.2.Since node ((f.endpoint node).Sends i a)
        ((f.watched link traffic).discover node a now s).state.link.2 := by
  unfold watched brokers brokersOver
  rw [shared]
  dsimp only
  exact call_noted fun h => Endpoint.discover_meet (signed_corresponds link _ node _)
    ((f.endpoint node).twins_signed i a link _ node) ((f.endpoint node).drafts_sends i a .discover) h

theorem watched_send (node : Nat) (target : Target) (m : Message) (now : Nat) (s : Session (σ × Notes)) :
    ((f.watched link traffic).send node a target m now s).map (Session.map Prod.fst) =
        (f.brokers link traffic).send node a target m now (s.map Prod.fst) ∧
      s.link.2.Since node ((f.endpoint node).Sends i a)
        ((f.watched link traffic).send node a target m now s).state.link.2 := by
  unfold watched brokers brokersOver
  rw [shared]
  dsimp only
  refine call_noted fun {t t'} h => ?_
  have sent : Meet (Signed s.link.2 node ((f.endpoint node).Sends i a))
      ((f.endpoint node).send (link.signed node) (TokenSource.issued i) a target m t)
      ((f.endpoint node).send link (TokenSource.issued i) a target m t') :=
    Endpoint.send_meet (signed_corresponds link _ node _) ((f.endpoint node).twins_signed i a link _ node)
      ((f.endpoint node).drafts_sends i a (.send target m)) h
  obtain ⟨result, u, u', noted, plain, after⟩ := sent
  simp only [noted, plain]
  cases result with
  | error e => exact ⟨_, _, _, rfl, rfl, after⟩
  | ok done => exact ⟨_, _, _, rfl, rfl, after⟩

theorem watched_unsubscribe (node : Nat) (id : SubscriptionId) (now : Nat) (s : Session (σ × Notes)) :
    ((f.watched link traffic).unsubscribe node a id now s).map (Session.map Prod.fst) =
        (f.brokers link traffic).unsubscribe node a id now (s.map Prod.fst) ∧
      s.link.2.Since node ((f.endpoint node).Sends i a)
        ((f.watched link traffic).unsubscribe node a id now s).state.link.2 := by
  unfold watched brokers brokersOver
  rw [shared]
  dsimp only
  exact call_noted fun h => Endpoint.unsubscribe_meet (signed_corresponds link _ node _)
    ((f.endpoint node).twins_signed i a link _ node) ((f.endpoint node).drafts_sends i a (.unsubscribe id)) h

theorem watched_simulates :
    (f.watched link traffic).Simulates (Session.map Prod.fst) (f.brokers link traffic) where
  poll node now s := (f.poll_noted link node now s).1
  steady _ := rfl
  subscribe node _ url now s := (watched_subscribe shared node url now s).1
  discover node _ now s := (watched_discover shared node now s).1
  send node _ target m now s := (watched_send shared node target m now s).1
  traffic _ _ := rfl

omit shared in
/-- Since some notes were taken, the nodes have been called and nothing else has been sent. -/
def Called (f : Fleet) (i : Issuer) (a : AnalysisId) (nodes : Nat) (before : Notes) (s : Session (σ × Notes)) :
    Prop :=
  ∃ new, s.link.2 = before ++ new ∧ ∀ x ∈ new, x.1 < nodes ∧ (f.endpoint x.1).Sends i a x.2

omit shared in
theorem Called.noted {nodes : Nat} {before : Notes} {s t : Session (σ × Notes)} (h : f.Called i a nodes before s)
    (there : node < nodes) (notes : s.link.2.Since node ((f.endpoint node).Sends i a) t.link.2) :
    f.Called i a nodes before t := by
  obtain ⟨old, same, all⟩ := h
  obtain ⟨new, more, sends⟩ := notes
  refine ⟨old ++ new, by rw [more, same, List.append_assoc], fun x member => ?_⟩
  rcases List.mem_append.mp member with earlier | later
  · exact all x earlier
  · obtain ⟨rfl, sends⟩ := sends x later
    exact ⟨there, sends⟩

theorem watched_keep (nodes : Nat) (before : Notes) :
    (f.watched link traffic).Keep nodes a (f.Called i a nodes before) where
  subscribe there url now _ called := called.noted there (watched_subscribe shared _ url now _).2
  discover there now _ called := called.noted there (watched_discover shared _ now _).2
  send there target m now _ called := called.noted there (watched_send shared _ target m now _).2
  unsubscribe there id now _ called := called.noted there (watched_unsubscribe shared _ id now _).2

omit shared in
/-- While a trial waits each node is sent its own polls, as many as are made of it, and nothing else is sent. -/
theorem awaitNodes_noted (t : Trial) (s : σ) (node : Nat) :
    let waited := t.awaitNodes (f.watched link traffic) { link := (s, []) }
    (waited.2.state.link.2.filter (·.1 == node)).map (·.2) =
      (waited.1.getD node []).filterMap fun _ => (f.endpoint node).asked? := by
  unfold Trial.awaitNodes
  split
  · simp
  · rename_i limit enabled
    have polls (w : Watch (Session (σ × Notes))) (beyond : t.nodes.length ≤ node → w.course node = {}) :
        (t.awaited limit w).1.getD node [] = (w.course node).polls := by
      rw [Trial.awaited, List.getD_eq_getElem?_getD, List.getElem?_map]
      rcases Nat.lt_or_ge node t.nodes.length with there | beyond'
      · rw [List.getElem?_range there]
        rfl
      · rw [List.getElem?_eq_none (by simpa using beyond'), beyond beyond']
        rfl
    dsimp only
    rw [polls _ Readiness.watch_course_beyond, Trial.awaited_state, Readiness.watch,
      show (f.watched link traffic).poll = f.poll link.signed from rfl, watchFrom_noted, List.nil_append,
      asked_filter]
    rfl

/-- What a run sends: first every node is sent its own polls, as many as are made of it; then the nodes are called. -/
def Sent (f : Fleet) (i : Issuer) (a : AnalysisId) (nodes : Nat) (polls : List (List Nat)) (notes : Notes) : Prop :=
  ∃ asked called, notes = asked ++ called ∧
    (∀ node, (asked.filter (·.1 == node)).map (·.2) =
      (polls.getD node []).filterMap fun _ => (f.endpoint node).asked?) ∧
    ∀ x ∈ called, x.1 < nodes ∧ (f.endpoint x.1).Sends i a x.2

/-- A run is the same whether or not it is watched, and each node is sent what is its own. -/
theorem run_watched (t : Trial) (source : Entropy) (bind : String → Except String Address) (s : σ) :
    let watched := t.run (f.watched link traffic) source bind { link := (s, []) }
    watched.map (Session.map Prod.fst) = t.run (f.brokers link traffic) source bind { link := s } ∧
      f.Sent i t.analysis t.nodes.length watched.polls watched.state.link.2 := by
  constructor
  · exact Trial.run_map (watched_simulates shared) fun node a id now s =>
      (watched_unsubscribe shared node id now s).1
  · let waited := t.awaitNodes (f.watched link traffic) { link := (s, []) }
    have keep : (f.watched link traffic).Keep t.nodes.length t.analysis
        (f.Called i t.analysis t.nodes.length waited.2.state.link.2) := watched_keep shared _ _
    have start : f.Called i t.analysis t.nodes.length waited.2.state.link.2 waited.2.state :=
      ⟨[], (List.append_nil _).symm, fun _ member => absurd member List.not_mem_nil⟩
    obtain ⟨polls, state⟩ | ⟨polls, new, notes, called⟩ := Trial.run_keeps keep start source bind
    · rw [polls, state]
      exact ⟨[], [], rfl, fun _ => rfl, fun _ member => absurd member List.not_mem_nil⟩
    · rw [polls, notes]
      exact ⟨_, new, rfl, awaitNodes_noted t s, called⟩

end Fleet

end BrokerTrial
