import Mathlib
import BrokerTrial.Network.Relay
import BrokerTrial.Proofs.Network.Dispatch

/-!
# Redeliveries end with their subscriptions

Whatever happens in between, a delivery is repeated only while its subscription is registered. Once this is
deleted, it is never repeated again, for the id is not given out a second time.
-/

namespace BrokerTrial.Network

/-! ### What the steps do to a network -/

section

variable {n : Network} {x : Dispatch}

/-- A message is accepted as it would be if it were posted at once. -/
theorem route_cases (n : Network) (x : Dispatch) :
    (∃ e, n.send x.sender x.analysis x.target x.message = (.error e, { n with failures := n.failures - 1 }) ∧
      n.route x = (.error e, { n with failures := n.failures - 1 })) ∨
    let all := n.addressed x.sender x.analysis x.target
    let accepted := { n with sent := n.sent + 1, drops := n.drops - all.length }
    n.send x.sender x.analysis x.target x.message =
      (.ok (), (all.drop n.drops).foldl (deliver x.message) accepted) ∧
    n.route x = (.ok (all.drop n.drops), accepted) := by
  obtain ⟨e, after, refused, -, paced⟩ | ⟨accepted, -⟩ :=
    sendPaced_cases (fun _ => {}) n x.sender x.analysis x.target x.message
  · left
    have failed : (n.dispatch (fun _ => {}) x).1 = .error e := congrArg Prod.fst paced
    have same : after = { n with failures := n.failures - 1 } :=
      (congrArg Prod.snd paced).symm.trans (dispatch_error failed)
    rw [same] at refused
    exact ⟨e, refused, by simp only [route, refused]⟩
  · right
    refine ⟨accepted, ?_⟩
    simp only [route, accepted]
    exact Prod.ext rfl (foldl_deliver x.message _ _ n.posts n.redeliveries)

/-- A repetition that falls due is made and is due again, or it ends. -/
theorem tick_cases (n : Network) (i : Nat) :
    (n.redeliveries[i]? = none ∧ n.tick i = n) ∨
    ∃ d, n.redeliveries[i]? = some d ∧
      ((d.subscription ∈ n.active ∧ n.tick i =
        { n with
          now := max n.now d.due
          posts := n.posts ++ [⟨d.due, d.url, d.message⟩]
          redeliveries := n.redeliveries.set i { d with due := d.due + d.interval } }) ∨
      (d.subscription ∉ n.active ∧ n.tick i =
        { n with now := max n.now d.due, redeliveries := n.redeliveries.eraseIdx i })) := by
  unfold tick
  cases found : n.redeliveries[i]? with
  | none => exact Or.inl ⟨rfl, rfl⟩
  | some d =>
    right
    refine ⟨d, rfl, ?_⟩
    by_cases active : d.subscription ∈ n.active
    · exact Or.inl ⟨active, if_pos active⟩
    · exact Or.inr ⟨active, if_neg active⟩

/-- To deliver is to post and then, if deliveries are repeated, to see to it that this one is. -/
theorem deliver_eq (n : Network) (message : Message) (s : Subscription) :
    n.redeliverEvery = none ∧ deliver message n s = n.request (s.shipment message) ∨
    ∃ interval, n.redeliverEvery = some interval ∧
      deliver message n s = (n.request (s.shipment message)).repeatEvery (s.shipment message) interval := by
  obtain ⟨stations, asked, deleted, sent, failures, drops, every, now, posts, redeliveries⟩ := n
  cases every with
  | none =>
    left
    refine ⟨rfl, ?_⟩
    rw [deliver, Option.map_none, Option.toList_none, List.append_nil]
    rfl
  | some interval => exact Or.inr ⟨interval, rfl, rfl⟩

theorem repeatEvery_shipments (n : Network) (s : Shipment) (interval : Nat) :
    (n.repeatEvery s interval).redeliveries.map Redelivery.shipment =
      n.redeliveries.map Redelivery.shipment ++ [s] := List.map_append

end

namespace Round

variable {r next : Round} {s : Subscription} {every : Option Nat}

theorem start?_eq_some (h : r.start? = some (s, next)) :
    next.message = r.message ∧ r.waiting = s.shipment r.message :: next.waiting ∧
      r.underway = [] ∧ next.underway = [s.shipment r.message] := by
  unfold start? at h
  split at h
  · rename_i none left
    cases h
    refine ⟨rfl, ?_, ?_, rfl⟩
    · rw [waiting, left]
      rfl
    · rw [underway, none]
      rfl
  · cases h

theorem answer?_eq_some (h : r.answer? = some (s, every, next)) :
    next.message = r.message ∧ next.waiting = r.waiting ∧
      r.underway = [s.shipment r.message] ∧ next.underway = [] := by
  unfold answer? at h
  split at h
  · rename_i under
    cases h
    refine ⟨rfl, rfl, ?_, rfl⟩
    rw [underway, under]
    rfl
  · cases h

end Round

/-- What is counted round by round changes with the round that does. -/
theorem count_flatMap_set {α β : Type} [DecidableEq β] {f : α → List β} {l : List α} {k : Nat} {old : α}
    (found : l[k]? = some old) (new : α) (x : β) :
    ((l.set k new).flatMap f).count x + (f old).count x = (l.flatMap f).count x + (f new).count x := by
  induction l generalizing k with
  | nil => cases found
  | cons first rest ih =>
    cases k with
    | zero =>
      cases found
      simp only [List.set_cons_zero, List.flatMap_cons, List.count_append]
      omega
    | succ k =>
      have later := ih found
      simp only [List.set_cons_succ, List.flatMap_cons, List.count_append]
      omega

/-! ### What is on record -/

namespace Relay

variable {r : Relay}

def firsts (r : Relay) : List Shipment := r.log.flatMap Entry.first

def waiting (r : Relay) : List Shipment := r.rounds.flatMap Round.waiting

def underway (r : Relay) : List Shipment := r.rounds.flatMap Round.underway

def repetitions (r : Relay) : List Shipment := r.network.redeliveries.map Redelivery.shipment

/-- The record accounts for all deliveries. -/
structure Traced (r : Relay) : Prop where
  booked : Booked r.toHistory
  /-- What is due has been delivered or waits for it. -/
  delivered : (r.firsts ++ r.waiting).Perm (r.log.flatMap Entry.due)
  /-- What is repeated, or will be once the webhook answers, has been delivered. -/
  own : (r.repetitions ++ r.underway).Subperm r.firsts
  requests : r.network.attempts = (r.log.flatMap Entry.requests).map fun s => (s.url, s.message)

namespace Traced

theorem start : Traced {} := ⟨Booked.start, List.Perm.refl _, List.Subperm.refl _, rfl⟩

/-- Something that nothing is posted, repeated or put on record for. -/
theorem quiet (t : Traced r) {h : History} (booked : Booked h)
    (posts : h.network.posts = r.network.posts)
    (redeliveries : h.network.redeliveries = r.network.redeliveries) : Traced { r with toHistory := h } := by
  refine ⟨booked, t.delivered, ?_, ?_⟩
  · have own := t.own
    rw [repetitions, ← redeliveries] at own
    exact own
  · have requests := t.requests
    rw [attempts, ← posts] at requests
    exact requests

/-- A call that is made at once. -/
theorem call (t : Traced r) (x : Action) (posts : (r.network.perform x).2.posts = r.network.posts)
    (redeliveries : (r.network.perform x).2.redeliveries = r.network.redeliveries) :
    Traced { r with toHistory := r.toHistory.step x } :=
  t.quiet (t.booked.step x) posts redeliveries

theorem subscribe (t : Traced r) (m : Member) (a : AnalysisId) (url : String) :
    Traced { r with toHistory := r.toHistory.step (.subscribe m a url) } := by
  apply t.call <;> rw [perform]
  all_goals
    obtain ⟨e, refused⟩ | ⟨front, s, back, -, -, made⟩ := r.network.subscribe_cases m a url
    · rw [refused]
    · rw [made]

theorem unsubscribe (t : Traced r) (m : Member) (id : SubscriptionId) :
    Traced { r with toHistory := r.toHistory.step (.unsubscribe m id) } := by
  apply t.call <;> rw [perform]
  all_goals
    obtain ⟨e, refused⟩ | ⟨front, s, back, -, -, -, -, done⟩ := r.network.unsubscribe_cases m id
    · rw [refused]
    · rw [done]

theorem refused (t : Traced r) (failures : Nat) :
    Traced { r with network := { r.network with failures } } :=
  t.quiet (t.booked.same rfl rfl (Nat.le_refl _)) rfl rfl

theorem accepted (t : Traced r) (x : Dispatch) (kept : List Subscription) (sent drops : Nat) :
    Traced
      { r with
        network := { r.network with sent, drops }
        rounds := r.rounds ++ [{ message := x.message, left := kept }]
        log := r.log ++ [.accepted x kept] } := by
  refine ⟨t.booked.same rfl rfl (Nat.le_refl _), ?_, ?_, ?_⟩
  · refine List.perm_iff_count.mpr fun s => ?_
    have before := t.delivered.count_eq s
    simp only [firsts, waiting, List.flatMap_append, List.count_append, List.flatMap_cons, List.flatMap_nil,
      List.append_nil, Entry.first, Entry.due, Round.waiting] at before ⊢
    omega
  · have own := t.own
    simpa [repetitions, underway, firsts, Round.underway, Entry.first] using own
  · have requests := t.requests
    simpa [attempts, Entry.requests] using requests

/-- A round that goes on: what it no longer waits for is posted, and nothing is repeated that was not. -/
theorem goesOn (t : Traced r) {k : Nat} {round next : Round} (found : r.rounds[k]? = some round)
    {network : Network} (booked : Booked { network, given := r.given }) {log : List Entry} (new : List Entry)
    (logged : log = r.log ++ new) (undue : new.flatMap Entry.due = [])
    (waiting : round.waiting = new.flatMap Entry.first ++ next.waiting)
    (own : (network.redeliveries.map Redelivery.shipment ++ next.underway).Subperm
      (r.repetitions ++ (round.underway ++ new.flatMap Entry.first)))
    (requests : network.attempts =
      r.network.attempts ++ (new.flatMap Entry.requests).map fun s => (s.url, s.message)) :
    Traced { network, given := r.given, rounds := r.rounds.set k next, log } := by
  subst logged
  refine ⟨booked, ?_, ?_, ?_⟩
  -- the lists of the rounds are changed in the middle, so they are compared by what is in them
  · refine List.perm_iff_count.mpr fun x => ?_
    have before := t.delivered.count_eq x
    have moved := count_flatMap_set (f := Round.waiting) found next x
    rw [waiting] at moved
    simp only [firsts, Relay.waiting, List.flatMap_append, List.count_append, undue, List.count_nil]
      at before moved ⊢
    omega
  · refine List.subperm_iff_count.mpr fun x => ?_
    have before := List.subperm_iff_count.mp t.own x
    have here := List.subperm_iff_count.mp own x
    have moved := count_flatMap_set (f := Round.underway) found next x
    simp only [firsts, repetitions, underway, List.flatMap_append, List.count_append] at before here moved ⊢
    omega
  · rw [requests, t.requests, List.flatMap_append, List.map_append]

theorem lookedUp (t : Traced r) {k : Nat} {round : Round} (found : r.rounds[k]? = some round)
    (every : Option (Option Nat)) : Traced { r with rounds := r.rounds.set k { round with every } } := by
  refine t.goesOn found t.booked [] (List.append_nil _).symm rfl rfl ?_ (List.append_nil _).symm
  rw [List.flatMap_nil, List.append_nil]
  exact List.Subperm.refl _

theorem posted (t : Traced r) {k : Nat} {round next : Round} {s : Subscription}
    (found : r.rounds[k]? = some round) (start : round.start? = some (s, next)) :
    Traced
      { r with
        network := r.network.request (s.shipment next.message)
        rounds := r.rounds.set k next
        log := r.log ++ [.posted (s.shipment next.message)] } := by
  obtain ⟨same, waiting, nothing, underway⟩ := Round.start?_eq_some start
  rw [same]
  have booked : Booked { network := r.network.request (s.shipment round.message), given := r.given } :=
    t.booked.same rfl rfl (Nat.le_refl _)
  refine t.goesOn found booked [.posted (s.shipment round.message)] rfl rfl waiting ?_ List.map_append
  rw [nothing, underway]
  exact List.Subperm.refl _

theorem answered (t : Traced r) {k : Nat} {round next : Round} {s : Subscription} {every : Option Nat}
    (found : r.rounds[k]? = some round) (answer : round.answer? = some (s, every, next)) :
    Traced { r with rounds := r.rounds.set k next } ∧
    ∀ interval, Traced
      { r with
        network := r.network.repeatEvery (s.shipment next.message) interval
        rounds := r.rounds.set k next } := by
  obtain ⟨same, waiting, underway, nothing⟩ := Round.answer?_eq_some answer
  refine ⟨?_, fun interval => ?_⟩
  · refine t.goesOn found t.booked [] (List.append_nil _).symm rfl waiting.symm ?_ (List.append_nil _).symm
    rw [underway, nothing, List.append_nil]
    exact (List.sublist_append_left _ _).subperm
  · have booked : Booked
        { network := r.network.repeatEvery (s.shipment next.message) interval, given := r.given } :=
      t.booked.same rfl rfl (Nat.le_refl _)
    refine t.goesOn found booked [] (List.append_nil _).symm rfl waiting.symm ?_ (List.append_nil _).symm
    rw [underway, nothing, repeatEvery_shipments, same, List.append_nil]
    exact List.Subperm.refl _

/-- A repetition that is made is put on record, and one that ends is struck off. -/
theorem ticked (t : Traced r) (i : Nat) :
    Traced { r with network := r.network.tick i, log := r.log ++ r.entries (.tick i) } := by
  have booked (now : Nat) (posts : List Post) (redeliveries : List Redelivery) :
      Booked { network := { r.network with now, posts, redeliveries }, given := r.given } :=
    t.booked.same rfl rfl (Nat.le_refl _)
  obtain ⟨found, tick⟩ | ⟨d, found, ⟨active, tick⟩ | ⟨gone, tick⟩⟩ := r.network.tick_cases i
  · rw [entries, found, tick, List.append_nil]
    exact t
  · have put : r.entries (.tick i) = [.repeated d.shipment] := by
      simp only [entries, found]
      exact if_pos active
    rw [put, tick]
    refine ⟨booked _ _ _, ?_, ?_, ?_⟩
    · simpa [firsts, waiting, Entry.first, Entry.due] using t.delivered
    · obtain ⟨bound, here⟩ := List.getElem?_eq_some_iff.mp found
      have same : (r.network.redeliveries.set i { d with due := d.due + d.interval }).map Redelivery.shipment =
          r.network.redeliveries.map Redelivery.shipment := by
        have kept : ({ d with due := d.due + d.interval } : Redelivery).shipment =
            Redelivery.shipment r.network.redeliveries[i] := by
          rw [here]
          rfl
        rw [List.map_set, kept, ← List.map_set, List.set_getElem_self]
      simpa [repetitions, underway, firsts, Entry.first, same] using t.own
    · have requests := t.requests
      simp only [attempts, List.flatMap_append, List.map_append] at requests ⊢
      rw [requests]
      rfl
  · have none : r.entries (.tick i) = [] := by
      simp only [entries, found]
      exact if_neg gone
    rw [none, tick, List.append_nil]
    refine ⟨booked _ _ _, t.delivered, ?_, t.requests⟩
    have fewer := (List.eraseIdx_sublist r.network.redeliveries i).map Redelivery.shipment
    exact ((fewer.append_right _).subperm).trans t.own

end Traced

/-! ### One event after the other -/

theorem change_log (r : Relay) (e : Event) : (r.change e).log = r.log := by
  cases e <;> first | rfl | (simp only [change]; split <;> rfl)

theorem step_of_silent {e : Event} (silent : r.entries e = []) : r.step e = r.change e := by
  rw [step, silent, List.append_nil, ← change_log r e]

theorem Traced.step (t : Traced r) (e : Event) : Traced (r.step e) := by
  cases e with
  | join m =>
    rw [step_of_silent rfl]
    exact t.call (.join m) rfl rfl
  | set x =>
    rw [step_of_silent rfl]
    apply t.call (.set x) <;> cases x <;> rfl
  | subscribe m a url =>
    rw [step_of_silent rfl]
    exact t.subscribe m a url
  | unsubscribe m id =>
    rw [step_of_silent rfl]
    exact t.unsubscribe m id
  | discover m =>
    rw [step_of_silent rfl]
    exact t.call (.discover m) rfl rfl
  | send x =>
    obtain ⟨e, -, refused⟩ | ⟨-, accepted⟩ := r.network.route_cases x
    · have silent : r.entries (.send x) = [] := by rw [entries, refused]
      rw [step_of_silent silent, change, refused]
      exact t.refused _
    · rw [Relay.step, entries, change, accepted]
      exact t.accepted x _ _ _
  | lookUp k =>
    rw [step_of_silent rfl, change]
    split
    · rename_i round found
      exact t.lookedUp found _
    · exact t
  | post k =>
    rw [Relay.step, entries, change]
    cases started : r.rounds[k]?.bind Round.start? with
    | none =>
      dsimp only
      rw [List.append_nil]
      exact t
    | some next =>
      obtain ⟨round, found, start⟩ := Option.bind_eq_some_iff.mp started
      exact t.posted found start
  | answer k =>
    rw [step_of_silent rfl, change]
    cases came : r.rounds[k]?.bind Round.answer? with
    | none => exact t
    | some next =>
      obtain ⟨round, found, answer⟩ := Option.bind_eq_some_iff.mp came
      obtain ⟨s, every, next⟩ := next
      cases every with
      | none => exact (t.answered found answer).1
      | some interval => exact (t.answered found answer).2 interval
  | tick i => exact t.ticked i
  | elapse time =>
    rw [step_of_silent rfl]
    exact t.quiet (t.booked.same rfl rfl (Nat.le_refl _)) rfl rfl

theorem Traced.run (t : Traced r) (events : List Event) : Traced (r.run events) := by
  induction events generalizing r with
  | nil => exact t
  | cons e rest ih => exact ih (t.step e)

/-- What is deleted stays deleted. -/
theorem step_deleted (r : Relay) (e : Event) : r.network.deleted <+: (r.step e).network.deleted := by
  cases e with
  | join m => exact r.network.perform_deleted (.join m)
  | set x => exact r.network.perform_deleted (.set x)
  | subscribe m a url => exact r.network.perform_deleted (.subscribe m a url)
  | unsubscribe m id => exact r.network.perform_deleted (.unsubscribe m id)
  | discover m => exact r.network.perform_deleted (.discover m)
  | send x =>
    rw [step, change]
    obtain ⟨e, -, refused⟩ | ⟨-, accepted⟩ := r.network.route_cases x
    · rw [refused]
    · rw [accepted]
  | lookUp k | post k | answer k =>
    rw [step, change]
    split <;> exact List.prefix_refl _
  | tick i =>
    have same : (r.network.tick i).deleted = r.network.deleted :=
      (congrArg Network.deleted (r.network.tick_beside i 0 [] []) :)
    change r.network.deleted <+: (r.network.tick i).deleted
    rw [same]
  | elapse time => exact List.prefix_refl _

theorem run_deleted (r : Relay) (events : List Event) :
    r.network.deleted <+: (r.run events).network.deleted := by
  induction events generalizing r with
  | nil => exact List.prefix_refl _
  | cons e rest ih => exact (r.step_deleted e).trans (ih (r.step e))

/-! ### What can be relied on -/

/-- A subscription is gone for good, and whatever is still repeated through it ends when it falls due. -/
structure Gone (id : SubscriptionId) (r : Relay) : Prop where
  inactive : id ∉ r.network.active
  never : ∀ m a url other n, r.network.subscribe m a url = (.ok other, n) → other ≠ id
  silent : ∀ e s, .repeated s ∈ r.entries e → s.subscription ≠ id
  last : ∀ i d, r.network.redeliveries[i]? = some d → d.subscription = id →
    (r.step (.tick i)).network.redeliveries = r.network.redeliveries.eraseIdx i ∧
      (r.step (.tick i)).network.posts = r.network.posts

/-- Repetitions are tied to the subscriptions that they go through. -/
structure Tied (r : Relay) : Prop where
  /-- A repetition is made when it falls due, while its subscription is registered, and what it repeats has
  been posted before, for it was accepted and not lost. -/
  repeated : ∀ e s, .repeated s ∈ r.entries e →
    (∃ i d, e = .tick i ∧ r.network.redeliveries[i]? = some d ∧ d.shipment = s) ∧
      s.subscription ∈ r.network.active ∧ .posted s ∈ r.log ∧
      ∃ x kept, .accepted x kept ∈ r.log ∧ s ∈ kept.map (·.shipment x.message)
  accepted : ∀ e x kept, .accepted x kept ∈ r.entries e →
    e = .send x ∧ (r.network.send x.sender x.analysis x.target x.message).1 = .ok () ∧
      kept = (r.network.addressed x.sender x.analysis x.target).drop r.network.drops
  /-- No delivery is made twice, and none is repeated twice at a time. -/
  delivered : (r.firsts ++ r.waiting).Perm (r.log.flatMap Entry.due) ∧ r.repetitions.Subperm r.firsts
  requests : r.network.attempts = (r.log.flatMap Entry.requests).map fun s => (s.url, s.message)
  beside : ∀ i, (r.step (.tick i)).network.sent = r.network.sent ∧
    (r.step (.tick i)).network.failures = r.network.failures ∧
    (r.step (.tick i)).network.drops = r.network.drops
  ends : ∀ m id, (r.network.unsubscribe m id).1 = .ok () →
    ∀ events, Gone id ((r.step (.unsubscribe m id)).run events)

theorem repeated_mem_entries {e : Event} {s : Shipment} (member : .repeated s ∈ r.entries e) :
    ∃ i d, e = .tick i ∧ r.network.redeliveries[i]? = some d ∧ d.shipment = s ∧
      s.subscription ∈ r.network.active := by
  cases e with
  | tick i =>
    rw [entries] at member
    split at member
    · rename_i d found
      split at member
      · rename_i active
        cases List.mem_singleton.mp member
        exact ⟨i, d, rfl, found, rfl, active⟩
      · cases member
    · cases member
  | send x | post k =>
    rw [entries] at member
    split at member
    · cases List.mem_singleton.mp member
    · cases member
  | _ => cases member

theorem accepted_mem_entries {e : Event} {x : Dispatch} {kept : List Subscription}
    (member : .accepted x kept ∈ r.entries e) :
    e = .send x ∧ (r.network.send x.sender x.analysis x.target x.message).1 = .ok () ∧
      kept = (r.network.addressed x.sender x.analysis x.target).drop r.network.drops := by
  cases e with
  | send y =>
    rw [entries] at member
    obtain ⟨e, -, refused⟩ | ⟨sent, accepted⟩ := r.network.route_cases y
    · rw [refused] at member
      cases member
    · rw [accepted] at member
      cases List.mem_singleton.mp member
      exact ⟨rfl, congrArg Prod.fst sent, rfl⟩
  | tick i =>
    rw [entries] at member
    split at member
    · split at member
      · cases List.mem_singleton.mp member
      · cases member
    · cases member
  | post k =>
    rw [entries] at member
    split at member
    · cases List.mem_singleton.mp member
    · cases member
  | _ => cases member

namespace Traced

/-- What is repeated has been posted, and before that it was accepted. -/
theorem repeated (t : Traced r) {e : Event} {s : Shipment} (member : .repeated s ∈ r.entries e) :
    (∃ i d, e = .tick i ∧ r.network.redeliveries[i]? = some d ∧ d.shipment = s) ∧
      s.subscription ∈ r.network.active ∧ .posted s ∈ r.log ∧
      ∃ x kept, .accepted x kept ∈ r.log ∧ s ∈ kept.map (·.shipment x.message) := by
  obtain ⟨i, d, same, found, rfl, active⟩ := repeated_mem_entries member
  have here : d.shipment ∈ r.repetitions := List.mem_map_of_mem (List.mem_of_getElem? found)
  have first : d.shipment ∈ r.firsts := t.own.subset (List.mem_append_left _ here)
  refine ⟨⟨i, d, same, found, rfl⟩, active, ?_, ?_⟩
  · obtain ⟨entry, logged, among⟩ := List.mem_flatMap.mp first
    cases entry with
    | posted s =>
      rw [List.mem_singleton.mp among]
      exact logged
    | accepted x kept | repeated s => cases among
  · have due := t.delivered.mem_iff.mp (List.mem_append_left _ first)
    obtain ⟨entry, logged, among⟩ := List.mem_flatMap.mp due
    cases entry with
    | accepted x kept => exact ⟨x, kept, logged, among⟩
    | posted s | repeated s => cases among

theorem gone (t : Traced r) {id : SubscriptionId} (deleted : id ∈ r.network.deleted) : Gone id r := by
  have inactive : id ∉ r.network.active := fun active => t.booked.disjoint active deleted
  refine ⟨inactive, ?_, ?_, ?_⟩
  · intro m a url other n made same
    -- the id was given out once, and what is given out is new
    have given : id ∈ r.given := t.booked.perm.mem_iff.mp (List.mem_append_right _ deleted)
    obtain ⟨e, refused⟩ | ⟨front, s, back, -, -, fresh⟩ := r.network.subscribe_cases m a url
    · rw [refused] at made
      cases made
    · rw [fresh] at made
      cases made
      rw [← same] at given
      exact t.booked.nextId_fresh given
  · intro e s member same
    obtain ⟨-, -, -, -, -, active⟩ := repeated_mem_entries member
    rw [same] at active
    exact inactive active
  · intro i d found same
    change (r.network.tick i).redeliveries = _ ∧ (r.network.tick i).posts = _
    obtain ⟨none, -⟩ | ⟨other, here, ⟨active, -⟩ | ⟨-, tick⟩⟩ := r.network.tick_cases i
    · rw [none] at found
      cases found
    · cases here.symm.trans found
      rw [same] at active
      exact absurd active inactive
    · rw [tick]
      exact ⟨rfl, rfl⟩

theorem ends (t : Traced r) {m : Member} {id : SubscriptionId} (ok : (r.network.unsubscribe m id).1 = .ok ())
    (events : List Event) : Gone id ((r.step (.unsubscribe m id)).run events) := by
  have deleted : id ∈ (r.step (.unsubscribe m id)).network.deleted := by
    obtain ⟨e, refused⟩ | ⟨front, s, back, -, -, -, -, done⟩ := r.network.unsubscribe_cases m id
    · rw [refused] at ok
      cases ok
    · change id ∈ (r.network.unsubscribe m id).2.deleted
      rw [done]
      exact List.mem_append_right _ List.mem_cons_self
  exact ((t.step (.unsubscribe m id)).run events).gone ((run_deleted _ events).subset deleted)

theorem tied (t : Traced r) : Tied r where
  repeated e s member := t.repeated member
  accepted e x kept member := accepted_mem_entries member
  delivered := ⟨t.delivered, (List.sublist_append_left _ _).subperm.trans t.own⟩
  requests := t.requests
  beside i := by
    have beside := r.network.tick_beside i 0 [] []
    exact ⟨(congrArg Network.sent beside :), (congrArg Network.failures beside :),
      (congrArg Network.drops beside :)⟩
  ends m id ok events := t.ends ok events

end Traced

/-! ### Runs that take large steps -/

theorem run_append (r : Relay) (front back : List Event) : r.run (front ++ back) = (r.run front).run back := by
  induction front generalizing r with
  | nil => rfl
  | cons e rest ih => exact ih (r.step e)

/-- Time that passes is repetitions that fall due, one after the other. -/
theorem run_passes (r : Relay) (time : Nat) :
    ∃ events, (r.run events).toHistory = { network := r.network.pass time, given := r.given } := by
  unfold pass
  -- any fuel will do, for what is left of the time can elapse at once
  generalize r.network.redeliveries.foldl _ 0 = fuel
  have rest (r : Relay) : ∃ events, (r.run events).toHistory =
      { network := { r.network with now := max r.network.now time }, given := r.given } := by
    refine ⟨[.elapse (time - r.network.now)], ?_⟩
    have later : r.network.now + (time - r.network.now) = max r.network.now time := by omega
    rw [run, step_of_silent rfl, change, later]
    rfl
  induction fuel generalizing r with
  | zero => exact rest r
  | succ fuel ih =>
    rw [passWith]
    split
    · exact rest r
    · rename_i due i next
      split
      · exact rest r
      · obtain ⟨events, same⟩ := ih (r.step (.tick i))
        exact ⟨.tick i :: events, same⟩

theorem run_post_answer {k : Nat} {message : Message} {s : Subscription} {left : List Subscription}
    (found : r.rounds[k]? = some { message, every := some r.network.redeliverEvery, left := s :: left }) :
    (r.run [.post k, .answer k]).toHistory = { network := deliver message r.network s, given := r.given } ∧
      (r.run [.post k, .answer k]).rounds[k]? =
        some { message, every := some r.network.redeliverEvery, left } := by
  obtain ⟨bound, -⟩ := List.getElem?_eq_some_iff.mp found
  have posted : r.step (.post k) =
      { r with
        network := r.network.request (s.shipment message)
        rounds := r.rounds.set k { message, every := some r.network.redeliverEvery, left, under := some s }
        log := r.log ++ [.posted (s.shipment message)] } := by
    simp only [step, change, entries, found]
    rfl
  have under : (r.step (.post k)).rounds[k]? =
      some { message, every := some r.network.redeliverEvery, left, under := some s } := by
    rw [posted]
    exact List.getElem?_set_self bound
  rw [run, run, run, step_of_silent rfl, change, under, posted]
  obtain ⟨off, once⟩ | ⟨interval, on, repeats⟩ := r.network.deliver_eq message s
  · rw [off, once]
    refine ⟨rfl, List.getElem?_set_self ?_⟩
    rw [List.length_set]
    exact bound
  · rw [on, repeats]
    refine ⟨rfl, List.getElem?_set_self ?_⟩
    rw [List.length_set]
    exact bound

/-- Webhooks that answer at once are posted to at once, one after the other. -/
theorem run_delivers (r : Relay) (k : Nat) (message : Message) (left : List Subscription)
    (found : r.rounds[k]? = some { message, every := some r.network.redeliverEvery, left }) :
    ∃ events, (r.run events).toHistory =
      { network := left.foldl (deliver message) r.network, given := r.given } := by
  induction left generalizing r with
  | nil => exact ⟨[], rfl⟩
  | cons s rest ih =>
    obtain ⟨history, rounds⟩ := run_post_answer found
    have network : (r.run [.post k, .answer k]).network = deliver message r.network s :=
      (congrArg History.network history :)
    have given : (r.run [.post k, .answer k]).given = r.given := (congrArg History.given history :)
    obtain ⟨events, same⟩ := ih (r.run [.post k, .answer k]) (by rw [rounds, network]; rfl)
    refine ⟨[.post k, .answer k] ++ events, ?_⟩
    rw [run_append, same, network, given]
    rfl

theorem run_send_lookUp {x : Dispatch} {kept : List Subscription} {accepted : Network}
    (routed : r.network.route x = (.ok kept, accepted)) :
    (r.run [.send x, .lookUp r.rounds.length]).toHistory = { network := accepted, given := r.given } ∧
      (r.run [.send x, .lookUp r.rounds.length]).rounds[r.rounds.length]? =
        some { message := x.message, every := some accepted.redeliverEvery, left := kept } := by
  have begun : r.step (.send x) =
      { r with
        network := accepted
        rounds := r.rounds ++ [{ message := x.message, left := kept }]
        log := r.log ++ [.accepted x kept] } := by
    simp only [step, change, entries, routed]
  have last : (r.rounds ++ [{ message := x.message, left := kept }])[r.rounds.length]? =
      some { message := x.message, left := kept } := List.getElem?_concat_length
  rw [run, run, run, step_of_silent rfl, change, begun]
  dsimp only
  rw [last]
  refine ⟨rfl, List.getElem?_set_self ?_⟩
  rw [List.length_append]
  exact Nat.lt_succ_self _

theorem run_sends (r : Relay) (x : Dispatch) :
    ∃ events, (r.run events).toHistory =
      { network := (r.network.send x.sender x.analysis x.target x.message).2, given := r.given } := by
  obtain ⟨e, refused, routed⟩ | ⟨sent, routed⟩ := r.network.route_cases x
  · refine ⟨[.send x], ?_⟩
    simp only [run, step, change, refused, routed]
  · obtain ⟨history, round⟩ := run_send_lookUp routed
    have network := (congrArg History.network history :)
    have given := (congrArg History.given history :)
    dsimp only at network given
    obtain ⟨events, same⟩ := run_delivers _ _ x.message _ (by rw [round, network])
    refine ⟨[.send x, .lookUp r.rounds.length] ++ events, ?_⟩
    rw [run_append, same, network, given, sent]

/-- To act in large steps is to act in small ones. -/
theorem run_acts (r : Relay) (x : Action) : ∃ events, (r.run events).toHistory = r.toHistory.step x := by
  cases x with
  | join m => exact ⟨[.join m], rfl⟩
  | set x => exact ⟨[.set x], rfl⟩
  | subscribe m a url => exact ⟨[.subscribe m a url], rfl⟩
  | unsubscribe m id => exact ⟨[.unsubscribe m id], rfl⟩
  | discover m => exact ⟨[.discover m], rfl⟩
  | send m a target message =>
    obtain ⟨events, same⟩ := r.run_sends ⟨m, a, target, message⟩
    refine ⟨events, same.trans ?_⟩
    cases result : (r.network.send m a target message).1 <;>
      simp [History.step, perform, result, Except.toOption, Except.map]
  | pass time =>
    obtain ⟨events, same⟩ := r.run_passes time
    refine ⟨events, same.trans ?_⟩
    simp [History.step, perform, Except.toOption]

theorem run_acts_all (r : Relay) (actions : List Action) :
    ∃ events, (r.run events).toHistory = r.toHistory.run actions := by
  induction actions generalizing r with
  | nil => exact ⟨[], rfl⟩
  | cons x rest ih =>
    obtain ⟨front, here⟩ := r.run_acts x
    obtain ⟨back, there⟩ := ih (r.run front)
    refine ⟨front ++ back, ?_⟩
    rw [run_append, there, here]
    rfl

end Relay

/-- However the events of a network interleave, repetitions are tied to their subscriptions; and whatever is
done to a network is such a sequence of events. -/
theorem redeliveries_end_with_subscriptions :
    (∀ events, (Relay.run {} events).Tied) ∧
      ∀ actions, ∃ events, (Relay.run {} events).toHistory = History.run {} actions :=
  ⟨fun events => (Relay.Traced.start.run events).tied, Relay.run_acts_all {}⟩

/-- A subscription that is made anew does not revive what was repeated through the old one. -/
theorem redeliveries_end_with_subscriptions_made_anew :
    let near : Member := ⟨"http://a", ⟨"a"⟩⟩
    let far : Member := ⟨"http://b", ⟨"b"⟩⟩
    let s : Shipment := ⟨⟨"sub-1"⟩, "u", ⟨"m"⟩⟩
    let r := Relay.run {}
      [.join near, .join far, .subscribe far ⟨"x"⟩ "u", .set (.redeliver 20),
        .send ⟨near, ⟨"x"⟩, .node ⟨"b"⟩, ⟨"m"⟩⟩, .lookUp 0, .post 0, .answer 0]
    let later := (r.step (.unsubscribe far ⟨"sub-1"⟩)).run [.subscribe far ⟨"x"⟩ "u"]
    (.repeated s ∈ r.entries (.tick 0) ∧ .posted s ∈ r.log) ∧
      later.network.active = [⟨"sub-2"⟩] ∧ later.Gone ⟨"sub-1"⟩ ∧
      later.network.redeliveries.length = 1 ∧ (later.step (.tick 0)).network.redeliveries = [] := by
  intro near far s r later
  have tied := redeliveries_end_with_subscriptions.1
    [.join near, .join far, .subscribe far ⟨"x"⟩ "u", .set (.redeliver 20),
      .send ⟨near, ⟨"x"⟩, .node ⟨"b"⟩, ⟨"m"⟩⟩, .lookUp 0, .post 0, .answer 0]
  have made : .repeated s ∈ r.entries (.tick 0) := by decide +kernel
  have gone : later.Gone ⟨"sub-1"⟩ := tied.ends far ⟨"sub-1"⟩ (by decide +kernel) _
  refine ⟨⟨made, (tied.repeated _ _ made).2.2.1⟩, ?_, gone, ?_, ?_⟩
  all_goals decide +kernel

end BrokerTrial.Network
