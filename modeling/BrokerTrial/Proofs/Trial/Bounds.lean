import Mathlib
import BrokerTrial.Proofs.Generation.Draws
import BrokerTrial.Proofs.Trial.Order

/-!
# What the check of a plan is good for

A plan is checked once, before anything else. In every run of a plan that passed, nodes are called that are
there and by the part they have, every copy that is due has room at the collector, and the number of copies
fits into a word.
-/

namespace BrokerTrial

variable {σ : Type}

/-! ### The check -/

/-- All that is wrong with a plan, in the order in which it is checked. -/
def Plan.complaints (p : Plan) : List ConfigError :=
  (if p.messageCount = 0 then [.noMessages] else []) ++
  (if p.nodes.length < p.mode.minNodes then
    [.insufficientNodes p.mode.name p.mode.minNodes p.nodes.length] else []) ++
  (if p.tuning.messageLength = 0 then [.invalidMessageLength] else []) ++
  (if p.tuning.receive.joinTimeout < p.tuning.receive.quiescenceWindow then
    [.invalidTimeouts p.tuning.receive.joinTimeout p.tuning.receive.quiescenceWindow] else [])

theorem Plan.check_eq (p : Plan) :
    p.check = match p.complaints.head? with
      | none => .ok ()
      | some e => .error e := by
  unfold check complaints Tuning.validate
  split_ifs <;> rfl

theorem Trial.ofPlan_ok_iff {p : Plan} :
    (∃ t, Trial.ofPlan p = .ok t ∧ t.toPlan = p) ↔ p.complaints.head? = none := by
  cases first : p.complaints.head? with
  | none =>
    have sound : p.check = .ok () := by rw [p.check_eq, first]
    exact ⟨fun _ => rfl, fun _ => ⟨_, Trial.ofPlan_of_ok sound, rfl⟩⟩
  | some e =>
    have rejected : p.check = .error e := by rw [p.check_eq, first]
    rw [Trial.ofPlan_of_error rejected]
    simp

theorem Trial.ofPlan_error_iff {p : Plan} {e : ConfigError} :
    Trial.ofPlan p = .error e ↔ p.complaints.head? = some e := by
  cases first : p.complaints.head? with
  | none =>
    have sound : p.check = .ok () := by rw [p.check_eq, first]
    rw [Trial.ofPlan_of_ok sound]
    simp
  | some e' =>
    have rejected : p.check = .error e' := by rw [p.check_eq, first]
    rw [Trial.ofPlan_of_error rejected]
    simp

theorem Plan.complaints_head?_eq_none {p : Plan} :
    p.complaints.head? = none ↔
      1 ≤ p.messageCount ∧ p.mode.minNodes ≤ p.nodes.length ∧ 1 ≤ p.tuning.messageLength ∧
        p.tuning.receive.quiescenceWindow ≤ p.tuning.receive.joinTimeout := by
  have none_iff (q : Prop) [Decidable q] (e : ConfigError) : (if q then [e] else []) = [] ↔ ¬q := by simp
  rw [List.head?_eq_none_iff, complaints]
  simp only [List.append_eq_nil_iff, none_iff]
  omega

/-! ### Room at the collector -/

theorem Reception.Leads.capacity_eq {r r' : Reception} {posts : List Delivery} (h : r.Leads posts r') :
    r'.inbox.capacity = r.inbox.capacity := by
  have step (r : Reception) (e : Event) : (r.step e).inbox.capacity = r.inbox.capacity := by
    cases e with
    | inbox e => exact (Inbox.step_change e).capacity_eq
    | listen =>
      obtain same | ⟨-, m, b, received, same⟩ | ⟨-, -, -, same⟩ := r.listen_cases
      · exact congrArg (·.inbox.capacity) same
      · obtain ⟨queue, -, ⟨-, rfl⟩ | ⟨w, waiting, -, rfl⟩⟩ := Inbox.receive_cases received
        all_goals exact congrArg (·.inbox.capacity) same
      · exact congrArg (·.inbox.capacity) same
  obtain ⟨events, rfl, -⟩ := h
  induction events generalizing r with
  | nil => rfl
  | cons e rest ih => exact (ih (r := r.step e)).trans (step r e)

namespace Trial

variable {t : Trial} {b : Brokers σ} {source : Entropy} {bind : String → Except String Address} {s : σ}

theorem one_le_copies (t : Trial) : 1 ≤ t.copies := by
  obtain ⟨-, enough, -⟩ := t.sound_parts
  rw [copies, Mode.copies_of_enough enough]
  cases mode : t.mode with
  | dedicated => simp
  | broadcast =>
    rw [mode, Mode.minNodes] at enough
    simp only [reduceCtorEq, if_false]
    omega

theorem capacity_openInbox (t : Trial) {sent : List Message} (now : Nat)
    (generated : (Generation.run source t.messageCount t.tuning.messageLength).result = .ok sent) :
    (t.openInbox sent.length now).capacity = t.messageCount * t.copies := by
  obtain ⟨count, -⟩ := t.sound_parts
  rw [openInbox, (Generation.run_ok generated).1]
  exact Nat.max_eq_left (Nat.mul_pos (Nat.pos_of_ne_zero count) t.one_le_copies)

theorem capacity_reception (t : Trial) (b : Brokers σ) (l : Launch σ) :
    (t.reception b l).inbox.capacity = (t.openInbox l.sent.length l.opened).capacity := by
  have received := (Reception.Leads.postAll (t.opening b l)
    ((t.arrivals b l).dropWhile (·.1 < l.time))).trans (Reception.Leads.pass _ (t.limit b l))
  have opened := (Inbox.Leads.postAll (t.openInbox l.sent.length l.opened)
    ((t.arrivals b l).takeWhile (·.1 < l.time))).trans (Inbox.Leads.advance _ l.time)
  exact received.capacity_eq.trans opened.capacity_eq

theorem capacity_exchange (t : Trial) (b : Brokers σ) (l : Launch σ) :
    (t.exchange b l).inbox.capacity = (t.openInbox l.sent.length l.opened).capacity := by
  have closed (inbox : Inbox) : inbox.close.capacity = inbox.capacity :=
    (Inbox.Leads.resumeAll inbox.leave _).capacity_eq
  rw [← t.capacity_reception b l]
  cases died : (t.sending b l).died with
  | true =>
    rw [exchange_of_died died]
    exact closed _
  | false =>
    cases ended : (t.reception b l).ended with
    | none =>
      rw [exchange_of_endless died ended]
      exact closed _
    | some quiet => rw [exchange_of_ended died ended]

theorem inbox_of_unprepared {sent : List Message} {bound : Address} {a : Attempt σ} {inbox : Inbox}
    (failed : t.prepare b sent bound s = .error a) (opened : a.inbox = some inbox) :
    ∃ now, inbox = t.openInbox sent.length now := by
  unfold prepare at failed
  dsimp only at failed
  split at failed
  · cases failed
    cases opened
  · split at failed
    · cases failed
      cases opened
    · split at failed
      · cases failed
        cases opened
        exact ⟨_, rfl⟩
      · cases failed

/-- The collector of a run has room for every copy that is due. -/
theorem capacity_attempt {inbox : Inbox} (opened : (t.attempt b source bind s).inbox = some inbox) :
    inbox.capacity = t.messageCount * t.copies := by
  cases setup : t.setup b source bind s with
  | ok l =>
    rw [attempt_of_ok setup] at opened
    cases opened
    rw [capacity_exchange, capacity_openInbox t _ (setup_ok setup).1]
  | error a =>
    rw [attempt_of_error setup] at opened
    unfold Trial.setup at setup
    split at setup
    · cases setup
      cases opened
    · rename_i sent generated
      dsimp only at setup
      split at setup
      · cases setup
        cases opened
      · obtain ⟨now, rfl⟩ := inbox_of_unprepared setup opened
        exact capacity_openInbox t now generated

theorem capacity_bounds (t : Trial) (few : t.messageCount ≤ 65535) (nodes : t.nodes.length ≤ 2 ^ 45) :
    t.messageCount * t.copies ≤ 2 ^ 61 - 1 ∧
      (UInt64.ofNat t.messageCount * UInt64.ofNat t.copies).toNat = t.messageCount * t.copies := by
  obtain ⟨-, enough, -⟩ := t.sound_parts
  have copies_le : t.copies ≤ 2 ^ 45 - 1 := by
    rw [copies, Mode.copies_of_enough enough]
    split <;> omega
  have product : t.messageCount * t.copies ≤ 65535 * (2 ^ 45 - 1) := Nat.mul_le_mul few copies_le
  have inside : t.messageCount * t.copies ≤ 2 ^ 61 - 1 := by omega
  refine ⟨inside, ?_⟩
  rw [UInt64.toNat_mul, UInt64.toNat_ofNat_of_lt' (by rw [UInt64.size]; omega),
    UInt64.toNat_ofNat_of_lt' (by rw [UInt64.size]; omega)]
  exact Nat.mod_eq_of_lt (by omega)

end Trial

/-! ### The nodes that are called -/

namespace Transaction

def node : Transaction → Nat
  | subscribe node _ _ _ | discover node _ _ | send node _ _ _ _ | unsubscribe node _ _ _ => node

def isSend : Transaction → Bool
  | send _ _ _ _ _ => true
  | subscribe _ _ _ _ | discover _ _ _ | unsubscribe _ _ _ _ => false

/-- A node is called by its part: the first one sends, the second one may be discovered, and subscriptions
are made and deleted at those that receive. -/
def InPlace (t : Trial) : Transaction → Prop
  | subscribe node _ _ _ | unsubscribe node _ _ _ => node ∈ t.receivers
  | discover node _ _ => node = 1
  | send node _ _ _ _ => node = 0

end Transaction

theorem Trial.parts_lt (t : Trial) : ∀ node ∈ 0 :: 1 :: t.receivers, node < t.nodes.length := by
  obtain ⟨-, enough, -⟩ := t.sound_parts
  have two : 2 ≤ t.nodes.length := Nat.le_trans (by cases t.mode <;> decide) enough
  intro node known
  rcases List.mem_cons.mp known with rfl | known
  · omega
  · rcases List.mem_cons.mp known with rfl | receives
    · omega
    · exact (t.receivers_between receives).2

theorem Transaction.InPlace.node_mem {t : Trial} {x : Transaction} (h : x.InPlace t) :
    x.node ∈ 0 :: 1 :: t.receivers := by
  cases x <;> simp_all [InPlace, node]

section

variable {t : Trial} {b : Brokers σ} {source : Entropy} {bind : String → Except String Address} {s : σ}
  {r : Report} {polls : List (List Nat)} {made : List (Nat × SubscriptionId)} {calls : List Transaction}
  {url : String} {a : AnalysisId}

open Transaction

/-- What the calls of a run are that come before the deletions: subscriptions at nodes that receive, at most
one more call, and messages that are sent, but none before all who receive have been subscribed. -/
structure Staged (t : Trial) (made : List (Nat × SubscriptionId)) (subscribed others sent : List Transaction) :
    Prop where
  subscribed_eq : ∃ url, subscribed = subscribes t.analysis url made
  receive : ∀ p ∈ made, p.1 ∈ t.receivers
  others_inPlace : ∀ x ∈ others, x.InPlace t ∧ x.isSend = false ∧ x.creation? = none
  sent_inPlace : ∀ x ∈ sent, x.InPlace t ∧ x.isSend = true
  complete : sent ≠ [] → made.map (·.1) = t.receivers

theorem Resolved.others_inPlace {target : Target} {asked : List Transaction} (h : Resolved t target asked) :
    ∀ x ∈ asked, x.InPlace t ∧ x.isSend = false ∧ x.creation? = none := by
  cases h with
  | everyone => exact fun x none => absurd none List.not_mem_nil
  | node => simp [InPlace, isSend, creation?]

theorem Staged.exchanged {target : Target} {asked : List Transaction} {sent : List Message}
    {results : List Handover} (receivers : made.map (·.1) = t.receivers) (resolved : Resolved t target asked) :
    Staged t made (subscribes t.analysis url made) asked (sends 0 t.analysis target sent results) where
  subscribed_eq := ⟨url, rfl⟩
  receive p member := receivers ▸ List.mem_map_of_mem member
  others_inPlace := resolved.others_inPlace
  sent_inPlace x member := by
    obtain ⟨pair, -, rfl⟩ := List.mem_map.mp member
    exact ⟨rfl, rfl⟩
  complete _ := receivers

theorem Progress.staged (h : Progress t b source bind s r polls made calls) :
    ∃ subscribed others sent, calls = subscribed ++ others ++ sent ∧ Staged t made subscribed others sent := by
  have nothing : Staged t [] [] [] [] :=
    ⟨⟨"", rfl⟩, by simp, by simp, by simp, fun some => absurd rfl some⟩
  cases h with
  | ungenerated | unbound | unready => exact ⟨[], [], [], rfl, nothing⟩
  | unsubscribed url _ node rest e awaited receivers =>
    refine ⟨_, [.subscribe node t.analysis url (.error e)], [], (List.append_nil _).symm, ⟨url, rfl⟩, ?_, ?_,
      by simp, fun some => absurd rfl some⟩
    · intro p member
      rw [← receivers]
      exact List.mem_append_left _ (List.mem_map_of_mem member)
    · simp [InPlace, isSend, creation?, ← receivers]
  | undiscovered url _ e awaited receivers =>
    exact ⟨_, [.discover 1 t.analysis (.error e)], [], (List.append_nil _).symm, ⟨url, rfl⟩,
      fun p member => receivers ▸ List.mem_map_of_mem member, by simp [InPlace, isSend, creation?], by simp,
      fun some => absurd rfl some⟩
  | died url _ target asked results awaited receivers resolved =>
    exact ⟨_, _, _, rfl, .exchanged receivers resolved⟩
  | launched url _ target asked results awaited receivers resolved =>
    exact ⟨_, _, _, rfl, .exchanged receivers resolved⟩

namespace Staged

variable {subscribed others sent : List Transaction} {results : List (Except BrokerError Unit)}

theorem inPlace (h : Staged t made subscribed others sent) :
    ∀ x ∈ subscribed ++ others ++ sent ++ deletes a made results, x.InPlace t := by
  obtain ⟨url, rfl⟩ := h.subscribed_eq
  intro x member
  simp only [List.mem_append] at member
  obtain ((member | member) | member) | member := member
  · obtain ⟨p, there, rfl⟩ := List.mem_map.mp member
    exact h.receive p there
  · exact (h.others_inPlace x member).1
  · exact (h.sent_inPlace x member).1
  · obtain ⟨⟨p, result⟩, there, rfl⟩ := List.mem_map.mp member
    exact h.receive p (List.of_mem_zip there).1

theorem subscribed_creations (h : Staged t made subscribed others sent) :
    (∀ x ∈ subscribed, x.isSend = false) ∧ creations subscribed = made := by
  obtain ⟨url, rfl⟩ := h.subscribed_eq
  refine ⟨fun x member => ?_, ?_⟩
  · obtain ⟨p, -, rfl⟩ := List.mem_map.mp member
    rfl
  · exact creations_subscribes ..

theorem later_creations (h : Staged t made subscribed others sent) :
    ∀ x ∈ sent ++ deletes a made results, x.creation? = none := by
  intro x member
  rcases List.mem_append.mp member with member | member
  · have sends := (h.sent_inPlace x member).2
    cases x <;> first | rfl | cases sends
  · obtain ⟨p, -, rfl⟩ := List.mem_map.mp member
    rfl

/-- The subscriptions made before the first message is sent are those at all who receive. -/
theorem creations_before (h : Staged t made subscribed others sent) {x : Transaction}
    (member : x ∈ subscribed ++ others ++ sent ++ deletes a made results) (sends : x.isSend = true) :
    (creations ((subscribed ++ others ++ sent ++ deletes a made results).takeWhile fun y => !y.isSend)).map
      (·.1) = t.receivers := by
  obtain ⟨silent, made_eq⟩ := h.subscribed_creations
  have early : ∀ y ∈ subscribed ++ others, (!y.isSend) = true := by
    intro y before
    rcases List.mem_append.mp before with before | before
    · rw [silent y before]; rfl
    · rw [(h.others_inPlace y before).2.1]; rfl
  have none : creations others = [] := List.filterMap_eq_nil_iff.mpr fun y before => (h.others_inPlace y before).2.2
  have later : creations ((sent ++ deletes a made results).takeWhile fun y => !y.isSend) = [] :=
    List.filterMap_eq_nil_iff.mpr fun y after => h.later_creations y (List.takeWhile_subset _ after)
  have some : sent ≠ [] := by
    rintro rfl
    rw [List.append_nil] at member
    rcases List.mem_append.mp member with before | after
    · have silent := early x before
      rw [sends] at silent
      cases silent
    · obtain ⟨p, -, rfl⟩ := List.mem_map.mp after
      cases sends
  rw [List.append_assoc, List.takeWhile_append_of_pos early, creations, List.filterMap_append,
    List.filterMap_append]
  simp only [creations] at made_eq none later
  rw [made_eq, none, later, List.append_nil, List.append_nil]
  exact h.complete some

end Staged

end

/-! ### The nodes that a report names -/

def TrialError.baseUrl? : TrialError → Option String
  | subscription url _ | discovery url _ => some url
  | _ => none

/-- The nodes that a report names, by their base addresses. -/
def Report.baseUrls (r : Report) : List String :=
  (match r.outcome with
    | .ok _ => []
    | .error e => e.baseUrl?.toList) ++ r.cleanupFailures.map (·.baseUrl)

theorem Cleanup.failed_at (b : Brokers σ) (baseUrl : Nat → String) (a : AnalysisId)
    (subscriptions : List (Nat × SubscriptionId)) (now : Nat) (s : σ) :
    ∀ f ∈ (run b baseUrl a subscriptions now s).failures, ∃ p ∈ subscriptions, f.baseUrl = baseUrl p.1 := by
  induction subscriptions generalizing now s with
  | nil => exact fun f none => absurd none List.not_mem_nil
  | cons p rest ih =>
    intro f member
    simp only [run] at member
    split at member
    · obtain ⟨p', there, same⟩ := ih _ _ f member
      exact ⟨p', List.mem_cons_of_mem _ there, same⟩
    · rcases List.mem_cons.mp member with rfl | member
      · exact ⟨p, List.mem_cons_self, rfl⟩
      · obtain ⟨p', there, same⟩ := ih _ _ f member
        exact ⟨p', List.mem_cons_of_mem _ there, same⟩

theorem TrialError.baseUrl?_of_late {e : TrialError} (late : e.cutsShort = false) : e.baseUrl? = none := by
  cases e <;> first | rfl | cases late

theorem Progress.failed_at {t : Trial} {b : Brokers σ} {source : Entropy}
    {bind : String → Except String Address} {s : σ} {r : Report} {polls : List (List Nat)}
    {made : List (Nat × SubscriptionId)} {calls : List Transaction} {e : TrialError} {url : String}
    (h : Progress t b source bind s r polls made calls) (failed : r.outcome = .error e)
    (named : e.baseUrl? = some url) : ∃ node ∈ 1 :: t.receivers, url = t.baseUrl node := by
  have is {e' : TrialError} (report : r.FailedWith e') : e'.baseUrl? = some url := by
    rw [report.outcome] at failed
    cases failed
    exact named
  cases h with
  | ungenerated e' _ _ report => cases is report
  | unbound reason _ _ _ report => cases is report
  | unready _ _ _ _ _ report => cases is report
  | unsubscribed _ _ node rest _ _ receivers report =>
    cases is report
    exact ⟨node, List.mem_cons_of_mem _ (by simp [← receivers]), rfl⟩
  | undiscovered _ _ _ _ _ _ report =>
    cases is report
    exact ⟨1, List.mem_cons_self, rfl⟩
  | died _ _ _ _ _ _ _ _ _ report => cases is report
  | launched _ _ _ _ _ _ _ _ _ _ outcome =>
    rw [TrialError.baseUrl?_of_late (outcome e failed)] at named
    cases named

namespace Trial

theorem baseUrl_mem (t : Trial) {node : Nat} (known : node ∈ 1 :: t.receivers) : t.baseUrl node ∈ t.nodes := by
  have there := t.parts_lt node (List.mem_cons_of_mem _ known)
  rw [baseUrl, List.getD_eq_getElem _ _ there]
  exact List.getElem_mem there

theorem run_staged (t : Trial) (b : Brokers σ) (source : Entropy) (bind : String → Except String Address) (s : σ) :
    let audit := t.run b.chronicled source bind (s, [])
    (∃ made subscribed others sent results, Staged t made subscribed others sent ∧
      audit.state.2.map (·.2) = subscribed ++ others ++ sent ++ deletes t.analysis made results) ∧
    ∀ url ∈ audit.report.baseUrls, url ∈ t.nodes := by
  intro audit
  obtain ⟨ready, calls, -, called, progress⟩ := attempt_calls t b source bind s
  generalize attempt : t.attempt b.chronicled source bind (s, []) = a at called progress
  have finish : audit = t.finish b.chronicled a := congrArg (t.finish b.chronicled) attempt
  obtain ⟨subscribed, others, sent, parts, staged⟩ := progress.staged
  rw [finish]
  constructor
  · obtain ⟨results, -, deleted, -⟩ := Cleanup.run_calls b t.baseUrl t.analysis a.subscriptions a.time a.state
    obtain ⟨-, new, log_eq, all, -⟩ := called.trans deleted
    refine ⟨a.subscriptions, subscribed, others, sent, results, staged, ?_⟩
    rw [← parts, ← all]
    exact congrArg (List.map (·.2)) log_eq
  · intro url member
    rcases List.mem_append.mp member with failed | left
    · split at failed
      · cases failed
      · rename_i e outcome
        obtain ⟨node, known, rfl⟩ := progress.failed_at outcome (by simpa using failed)
        exact t.baseUrl_mem known
    · obtain ⟨f, failed, rfl⟩ := List.mem_map.mp left
      obtain ⟨p, made, same⟩ := Cleanup.failed_at b.chronicled t.baseUrl t.analysis a.subscriptions a.time a.state
        f failed
      rw [same]
      exact t.baseUrl_mem (List.mem_cons_of_mem _ (staged.receive p made))

end Trial

/-- A plan is accepted if it asks for a message, has the nodes that its mode needs and is tuned to ids of some
length and to a join timeout no shorter than the quiet, and otherwise its first flaw is told. In a run of an
accepted plan only nodes that are there are called and named, each by its part; all who receive have been
subscribed before a message is sent, which makes as many copies as are due; ids have a length, and there is
room at the collector for every copy. With up to 65535 messages and `2 ^ 45` nodes this room is a word, and no
more than a channel can have. -/
theorem accepted_plans_stay_in_bounds :
    (∀ p : Plan, (∃ t, Trial.ofPlan p = .ok t ∧ t.toPlan = p) ↔
      1 ≤ p.messageCount ∧ p.mode.minNodes ≤ p.nodes.length ∧ 1 ≤ p.tuning.messageLength ∧
        p.tuning.receive.quiescenceWindow ≤ p.tuning.receive.joinTimeout) ∧
    (∀ (p : Plan) (e : ConfigError), Trial.ofPlan p = .error e ↔ p.complaints.head? = some e) ∧
    ∀ {σ : Type} (t : Trial) (b : Brokers σ) (source : Entropy) (bind : String → Except String Address) (s : σ),
      let r := t.run b source bind s
      let audit := t.run b.chronicled source bind (s, [])
      let log := audit.state.2.map (·.2)
      audit.map Prod.fst = r ∧
      (∀ node ∈ 0 :: 1 :: t.receivers, node < t.nodes.length) ∧ 0 ∉ t.receivers ∧
      (∀ x ∈ log, x.InPlace t ∧ x.node < t.nodes.length) ∧ (∀ url ∈ r.report.baseUrls, url ∈ t.nodes) ∧
      1 ≤ t.copies ∧ t.receivers.length = t.copies ∧
      (∀ x ∈ log, x.isSend = true →
        (Transaction.creations (log.takeWhile fun y => !y.isSend)).map (·.1) = t.receivers) ∧
      (∀ n, (Generation.run source t.messageCount t.tuning.messageLength).result ≠ .error (.zeroLength n)) ∧
      (∀ inbox, r.inbox = some inbox → inbox.capacity = t.messageCount * t.copies ∧ 0 < inbox.capacity) ∧
      (t.messageCount ≤ 65535 → t.nodes.length ≤ 2 ^ 45 →
        t.messageCount * t.copies ≤ 2 ^ 61 - 1 ∧
        (UInt64.ofNat t.messageCount * UInt64.ofNat t.copies).toNat = t.messageCount * t.copies) := by
  refine ⟨fun p => Trial.ofPlan_ok_iff.trans Plan.complaints_head?_eq_none, fun p e => Trial.ofPlan_error_iff,
    fun {σ} t b source bind s => ?_⟩
  intro r audit log
  have same : audit.map Prod.fst = r := Trial.run_map b.chronicled_simulates fun _ _ _ _ _ => rfl
  obtain ⟨⟨made, subscribed, others, sent, results, staged, parts⟩, named⟩ := t.run_staged b source bind s
  have length : t.receivers.length = t.copies := t.mode.length_receivers t.nodes.length
  have long : t.tuning.messageLength ≠ 0 := (Tuning.validate_ok t.sound_parts.2.2).1
  refine ⟨same, t.parts_lt, fun sender => absurd (t.receivers_between sender).1 (by decide), fun x member => ?_, ?_,
    t.one_le_copies, length, fun x member sends => ?_, fun n => Generation.run_ne_zeroLength long, ?_,
    t.capacity_bounds⟩
  · rw [show log = _ from parts] at member
    have inPlace := staged.inPlace x member
    exact ⟨inPlace, t.parts_lt _ inPlace.node_mem⟩
  · rw [← same]
    exact named
  · rw [show log = _ from parts] at member ⊢
    exact staged.creations_before member sends
  · intro inbox opened
    have room : inbox.capacity = t.messageCount * t.copies := Trial.capacity_attempt opened
    rw [room]
    exact ⟨rfl, Nat.mul_pos (Nat.pos_of_ne_zero t.sound_parts.1) t.one_le_copies⟩

/-- One of two nodes is subscribed, the other one dies over the first message, and there would have been room for
both. -/
theorem accepted_plans_stay_in_bounds_of_two :
    let t := Trial.dedicatedOfTwo
    let b := (Rehearsal.ofNodes t.nodes fun k => { dies := k = 0 }).brokers fun _ => some "/results"
    let bind : String → Except String Address := fun _ => .ok ⟨Address.loopback, 80⟩
    let r := t.run b (.counting 2 1) bind {}
    let log := (t.run b.chronicled (.counting 2 1) bind ({}, [])).state.2.map (·.2)
    let x : Transaction := .send 0 t.analysis (.node ⟨"node-1"⟩) ⟨Generation.hex [0]⟩ .died
    (∃ t', Trial.ofPlan t.toPlan = .ok t' ∧ t'.toPlan = t.toPlan) ∧
    x ∈ log ∧ (Transaction.creations (log.takeWhile fun y => !y.isSend)).map (·.1) = t.receivers ∧
    (∃ inbox, r.inbox = some inbox ∧ inbox.capacity = t.messageCount * t.copies ∧ 0 < inbox.capacity) ∧
    t.messageCount * t.copies ≤ 2 ^ 61 - 1 ∧
    (UInt64.ofNat t.messageCount * UInt64.ofNat t.copies).toNat = t.messageCount * t.copies := by
  intro t b bind r log x
  have sent : log[2]? = some x := by
    subst log x b bind t
    cbv
  have sent : x ∈ log := List.mem_of_getElem? sent
  have opened : r.inbox.isSome = true := by
    subst r b bind t
    cbv
  obtain ⟨inbox, opened⟩ := Option.isSome_iff_exists.mp opened
  obtain ⟨accepted, -, runs⟩ := accepted_plans_stay_in_bounds
  obtain ⟨-, -, -, -, -, -, -, subscribed, -, room, word⟩ := runs t b (.counting 2 1) bind {}
  exact ⟨(accepted t.toPlan).mpr (by decide), sent, subscribed x sent rfl, ⟨inbox, opened, room inbox opened⟩,
    word (by decide) (by decide)⟩

end BrokerTrial
