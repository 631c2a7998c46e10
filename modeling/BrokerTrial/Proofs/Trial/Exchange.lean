import Mathlib
import BrokerTrial.Proofs.Reception.Quiescence
import BrokerTrial.Proofs.Trial.Phases
import BrokerTrial.Trial.Rehearsal

/-!
# How an exchange ends

Once the sender has come to its end the receiver has the join timeout to come to its own. Which of the two
instants is first, quiet or the end of that timeout, is settled by when messages come.
-/

namespace BrokerTrial

variable {σ : Type}

/-! ### Arrivals in order -/

namespace Brokers

theorem arrivals_sorted (b : Brokers σ) (s : σ) (last : Nat) :
    ((b.arrivals s last).map Prod.fst).Pairwise (· ≤ ·) := by
  refine List.pairwise_map.mpr (List.Pairwise.imp (fun before => of_decide_eq_true before) ?_)
  refine List.pairwise_mergeSort (fun x y z first second => ?_) (fun x y => ?_) _
  · simp only [decide_eq_true_eq] at first second ⊢
    exact Nat.le_trans first second
  · simp only [Bool.or_eq_true, decide_eq_true_eq]
    exact Nat.le_total ..

theorem arrivals_le (b : Brokers σ) (s : σ) (last : Nat) :
    ∀ time ∈ (b.arrivals s last).map Prod.fst, time ≤ last := by
  intro time member
  obtain ⟨x, here, rfl⟩ := List.mem_map.mp member
  simpa using (List.mem_filter.mp (List.mem_mergeSort.mp here)).2

end Brokers

theorem le_of_mem_dropWhile {launch : Nat} {arrivals : List (Nat × Delivery)}
    (sorted : (arrivals.map Prod.fst).Pairwise (· ≤ ·)) :
    ∀ time ∈ (arrivals.dropWhile (·.1 < launch)).map Prod.fst, launch ≤ time := by
  induction arrivals with
  | nil => simp
  | cons x rest ih =>
    obtain ⟨after, ordered⟩ := List.pairwise_cons.mp sorted
    rw [List.dropWhile_cons]
    split
    · exact ih ordered
    · rename_i late
      have here : launch ≤ x.1 := by simpa using late
      intro time member
      rcases List.mem_cons.mp member with rfl | there
      · exact here
      · exact Nat.le_trans here (after time there)

theorem lt_of_mem_takeWhile {launch : Nat} {arrivals : List (Nat × Delivery)} :
    ∀ time ∈ (arrivals.takeWhile (·.1 < launch)).map Prod.fst, time < launch := by
  intro time member
  obtain ⟨x, here, rfl⟩ := List.mem_map.mp member
  simpa using List.all_eq_true.mp List.all_takeWhile x here

namespace Trial

variable {t : Trial} {b : Brokers σ} {l : Launch σ}

open Reception (messages quietAfter)

/-! ### The reception of a trial -/

theorem opening_now (opened : l.opened ≤ l.time) : (t.opening b l).inbox.now = l.time :=
  Inbox.advance_now
    (Inbox.postAll_now_le opened fun time member => Nat.le_of_lt (lt_of_mem_takeWhile time member))

theorem opening_heard (opened : l.opened ≤ l.time) : (t.opening b l).lastHeard = l.time := by
  have now := opening_now (t := t) (b := b) opened
  unfold Reception.lastHeard
  split
  · exact now
  · exact now

theorem opening_live : (t.opening b l).Live := by
  have leads := (Inbox.Leads.postAll (t.openInbox l.sent.length l.opened)
    ((t.arrivals b l).takeWhile (·.1 < l.time))).trans (Inbox.Leads.advance _ l.time)
  have start : (t.openInbox l.sent.length l.opened).Orderly :=
    ⟨rfl, rfl, fun none => absurd rfl none, List.pairwise_singleton ..⟩
  refine ⟨rfl, start.leads leads, ?_, Nat.le_refl _, fun _ => Nat.le_add_right ..⟩
  exact Nat.lt_of_lt_of_eq (Nat.le_max_right ..) leads.capacity_eq.symm

/-- The first instant by which a window has passed since the launch and since every message that came
before. -/
def QuietAt (t : Trial) (b : Brokers σ) (l : Launch σ) (quiet : Nat) : Prop :=
  IsLeast
    {q | l.time + t.tuning.receive.quiescenceWindow ≤ q ∧
      ∀ x ∈ messages (t.arrivals b l), x.1 < q → x.1 + t.tuning.receive.quiescenceWindow ≤ q}
    quiet

/-- What a trial acknowledges up to an instant: what waits for the receiver at the launch, and then every
message that comes. -/
def acknowledgedBefore (t : Trial) (b : Brokers σ) (l : Launch σ) (quiet : Nat) : List (Nat × Message) :=
  (t.opening b l).due ++ (messages (t.arrivals b l)).filter fun x => l.time ≤ x.1 ∧ x.1 < quiet

theorem launch_le_limit : l.time ≤ t.limit b l := by
  unfold limit
  dsimp only
  split
  · exact le_sending_time
  · exact Nat.le_add_right_of_le le_sending_time

theorem later_sorted :
    (l.time :: ((t.arrivals b l).dropWhile (·.1 < l.time)).map Prod.fst).Pairwise (· ≤ ·) := by
  have ordered : ((t.arrivals b l).map Prod.fst).Pairwise (· ≤ ·) := b.arrivals_sorted ..
  have part := (List.dropWhile_sublist (l := t.arrivals b l) fun x => x.1 < l.time).map Prod.fst
  exact List.pairwise_cons.mpr ⟨le_of_mem_dropWhile ordered, ordered.sublist part⟩

theorem later_le : ∀ time ∈ l.time :: ((t.arrivals b l).dropWhile (·.1 < l.time)).map Prod.fst,
    time ≤ t.limit b l := by
  have part := (List.dropWhile_sublist (l := t.arrivals b l) fun x => x.1 < l.time).map Prod.fst
  intro time member
  rcases List.mem_cons.mp member with rfl | there
  · exact launch_le_limit
  · exact b.arrivals_le _ _ time (part.subset there)

/-- The messages that come before the launch, and those that come after it. -/
theorem messages_split :
    messages (t.arrivals b l) = messages ((t.arrivals b l).takeWhile (·.1 < l.time)) ++
        messages ((t.arrivals b l).dropWhile (·.1 < l.time)) ∧
      (∀ x ∈ messages ((t.arrivals b l).takeWhile (·.1 < l.time)), x.1 < l.time) ∧
      ∀ x ∈ messages ((t.arrivals b l).dropWhile (·.1 < l.time)), l.time ≤ x.1 := by
  refine ⟨?_, fun x member => ?_, fun x member => ?_⟩
  · rw [messages, messages, messages, ← List.filterMap_append, List.takeWhile_append_dropWhile]
  · have times := Reception.messages_times_sublist ((t.arrivals b l).takeWhile (·.1 < l.time))
    exact lt_of_mem_takeWhile _ (times.subset (List.mem_map_of_mem member))
  · have times := Reception.messages_times_sublist ((t.arrivals b l).dropWhile (·.1 < l.time))
    exact le_of_mem_dropWhile (b.arrivals_sorted ..) _ (times.subset (List.mem_map_of_mem member))

theorem quietAt_quietAfter :
    t.QuietAt b l (quietAfter t.tuning.receive.quiescenceWindow l.time
      ((messages ((t.arrivals b l).dropWhile (·.1 < l.time))).map Prod.fst)) := by
  obtain ⟨split, early, -⟩ := messages_split (t := t) (b := b) (l := l)
  have times := later_sorted.sublist ((Reception.messages_times_sublist
    ((t.arrivals b l).dropWhile (·.1 < l.time))).cons_cons l.time)
  obtain ⟨⟨passed, quiet⟩, least⟩ :=
    Reception.quietAfter_isLeast t.tuning.receive.quiescenceWindow times
  refine ⟨⟨passed, fun x member earlier => ?_⟩, fun q other => least ⟨other.1, ?_⟩⟩
  · rw [split] at member
    rcases List.mem_append.mp member with here | there
    · -- the launch comes later, so its own window is the longer one
      exact Nat.le_trans (Nat.add_le_add_right (Nat.le_of_lt (early x here)) _) passed
    · exact quiet x.1 (List.mem_map_of_mem there) earlier
  · intro time member earlier
    obtain ⟨x, here, rfl⟩ := List.mem_map.mp member
    exact other.2 x (by rw [split]; exact List.mem_append_right _ here) earlier

theorem filter_between {before after : List (Nat × Message)} {launch quiet : Nat}
    (early : ∀ x ∈ before, x.1 < launch) (late : ∀ x ∈ after, launch ≤ x.1) :
    (before ++ after).filter (fun x => launch ≤ x.1 ∧ x.1 < quiet) = after.filter (·.1 < quiet) := by
  have none : before.filter (fun x => launch ≤ x.1 ∧ x.1 < quiet) = [] :=
    List.filter_eq_nil_iff.mpr fun x member => by simp [Nat.not_le.mpr (early x member)]
  rw [List.filter_append, none, List.nil_append]
  exact List.filter_congr fun x member => by simp [late x member]

/-- The reception ends when there has been quiet for a window, unless it is given up before. -/
theorem reception_concluded (opened : l.opened ≤ l.time) :
    ∃ quiet, t.QuietAt b l quiet ∧
      (t.reception b l).Concluded quiet (t.limit b l) (t.acknowledgedBefore b l quiet) := by
  obtain ⟨split, early, late⟩ := messages_split (t := t) (b := b) (l := l)
  have now := opening_now (t := t) (b := b) opened
  have concluded : (t.reception b l).Concluded _ (t.limit b l) _ :=
    opening_live.concluded (by rw [now]; exact later_sorted) (by rw [now]; exact later_le)
  rw [opening_heard opened] at concluded
  refine ⟨_, quietAt_quietAfter, ?_⟩
  rw [acknowledgedBefore, split, filter_between early late]
  exact concluded

theorem acknowledgedBefore_lt {quiet : Nat} (opened : l.opened ≤ l.time) (q : t.QuietAt b l quiet)
    (window : 0 < t.tuning.receive.quiescenceWindow) : ∀ x ∈ t.acknowledgedBefore b l quiet, x.1 < quiet := by
  have launched : l.time < quiet := Nat.lt_of_lt_of_le (Nat.lt_add_of_pos_right window) q.1.1
  have now := opening_now (t := t) (b := b) opened
  intro x member
  rcases List.mem_append.mp member with due | later
  · rcases List.mem_append.mp due with queued | waiting
    · have early := (t.opening_sound b l).early x queued
      rw [now] at early
      exact Nat.lt_of_le_of_lt early launched
    · obtain ⟨w, -, rfl⟩ := List.mem_map.mp waiting
      rw [now]
      exact launched
  · simpa using (of_decide_eq_true (List.mem_filter.mp later).2).2

/-! ### The two ends of an exchange -/

theorem limit_of_alive (alive : (t.sending b l).died = false) :
    t.limit b l = (t.sending b l).time + t.tuning.receive.joinTimeout := by
  simp [limit, alive]

/-- If quiet comes in time, what was acknowledged by then is judged. -/
theorem exchange_of_quiet {quiet : Nat} (alive : (t.sending b l).died = false)
    (concluded : (t.reception b l).Concluded quiet (t.limit b l) (t.acknowledgedBefore b l quiet))
    (timely : quiet ≤ t.limit b l) :
    (t.exchange b l).time = max (t.sending b l).time quiet ∧
      (t.exchange b l).received = (t.acknowledgedBefore b l quiet).map Prod.snd ∧
      (t.exchange b l).summary = some (t.sending b l).summary ∧
      (t.exchange b l).outcome = t.judge l.sent (t.exchange b l).received := by
  have ended := concluded.ended_eq
  rw [if_pos timely] at ended
  have sound := t.reception_sound b l
  have all := sound.taken
  rw [(sound.finished quiet ended).1, List.append_nil, concluded.admissions_eq] at all
  rw [exchange_of_ended alive ended]
  exact ⟨rfl, all.symm, rfl, rfl⟩

theorem exchange_of_loud {quiet : Nat} (alive : (t.sending b l).died = false)
    (concluded : (t.reception b l).Concluded quiet (t.limit b l) (t.acknowledgedBefore b l quiet))
    (late : t.limit b l < quiet) :
    (t.exchange b l).time = t.limit b l ∧ (t.exchange b l).received = [] ∧
      (t.exchange b l).summary = some (t.sending b l).summary ∧
      (t.exchange b l).outcome = .error (.receiverTimeout (.ofMillis t.tuning.receive.joinTimeout)) := by
  have endless := concluded.ended_eq
  rw [if_neg (Nat.not_le.mpr late)] at endless
  rw [exchange_of_endless alive endless]
  exact ⟨rfl, rfl, rfl, rfl⟩

/-- If no message is acknowledged after the sender came to its end, quiet comes a window later at most. -/
theorem quiet_le {quiet : Nat} (q : t.QuietAt b l quiet)
    (past : ∀ x ∈ t.acknowledgedBefore b l quiet, x.1 ≤ (t.sending b l).time) :
    quiet ≤ (t.sending b l).time + t.tuning.receive.quiescenceWindow := by
  have launched : l.time ≤ (t.sending b l).time := le_sending_time
  refine Decidable.byContradiction fun later => later (q.2 ⟨Nat.add_le_add_right launched _, ?_⟩)
  intro x member early
  refine Nat.add_le_add_right ?_ _
  rcases Nat.lt_or_ge x.1 l.time with before | after
  · exact Nat.le_trans (Nat.le_of_lt before) launched
  · have acknowledged : decide (l.time ≤ x.1 ∧ x.1 < quiet) = true :=
      decide_eq_true ⟨after, Nat.lt_trans early (Nat.not_le.mp later)⟩
    exact past x (List.mem_append_right _ (List.mem_filter.mpr ⟨member, acknowledged⟩))

/-! ### Exchanges that are never quiet for long -/

/-- Quiet for a window comes after all times that come within a window of each other. -/
theorem lt_of_brisk {start window quiet : Nat} {times : List Nat}
    (brisk : (start :: times).IsChain fun x y => x ≤ y ∧ y < x + window) (passed : start + window ≤ quiet)
    (heard : ∀ time ∈ times, time < quiet → time + window ≤ quiet) : ∀ time ∈ times, time < quiet := by
  induction times generalizing start with
  | nil => simp
  | cons first rest ih =>
    obtain ⟨⟨-, soon⟩, brisk⟩ := List.isChain_cons_cons.mp brisk
    have early : first < quiet := Nat.lt_of_lt_of_le soon passed
    intro time member
    rcases List.mem_cons.mp member with rfl | later
    · exact early
    · exact ih brisk (heard first List.mem_cons_self early)
        (fun time member => heard time (List.mem_cons_of_mem _ member)) time later

theorem opening_due (late : ∀ x ∈ t.arrivals b l, l.time ≤ x.1) : (t.opening b l).due = [] := by
  have none : (t.arrivals b l).takeWhile (·.1 < l.time) = [] := by
    cases arrivals : t.arrivals b l with
    | nil => rfl
    | cons x rest =>
      have after := late x (arrivals ▸ List.mem_cons_self)
      exact List.takeWhile_cons_of_neg (by simpa using after)
  unfold opening
  rw [none]
  rfl

/-- If no message comes a window or more after the one before it, and none after the sender came to its end,
all are received. -/
theorem exchange_of_brisk (opened : l.opened ≤ l.time) (alive : (t.sending b l).died = false)
    (wider : t.tuning.receive.quiescenceWindow < t.tuning.receive.joinTimeout)
    (late : ∀ x ∈ t.arrivals b l, l.time ≤ x.1)
    (brisk : (l.time :: (messages (t.arrivals b l)).map Prod.fst).IsChain
      fun x y => x ≤ y ∧ y < x + t.tuning.receive.quiescenceWindow)
    (past : ∀ x ∈ messages (t.arrivals b l), x.1 ≤ (t.sending b l).time) :
    (t.exchange b l).received = (messages (t.arrivals b l)).map Prod.snd ∧
      (t.exchange b l).summary = some (t.sending b l).summary ∧
      (t.exchange b l).outcome = t.judge l.sent (t.exchange b l).received := by
  obtain ⟨quiet, q, concluded⟩ := reception_concluded (t := t) (b := b) opened
  have early : ∀ time ∈ (messages (t.arrivals b l)).map Prod.fst, time < quiet := by
    refine lt_of_brisk brisk q.1.1 fun time member before => ?_
    obtain ⟨x, here, rfl⟩ := List.mem_map.mp member
    exact q.1.2 x here before
  have all : t.acknowledgedBefore b l quiet = messages (t.arrivals b l) := by
    rw [acknowledgedBefore, opening_due late, List.nil_append, List.filter_eq_self]
    intro x member
    have times := Reception.messages_times_sublist (t.arrivals b l)
    obtain ⟨y, here, same⟩ := List.mem_map.mp (times.subset (List.mem_map_of_mem member))
    exact decide_eq_true ⟨same ▸ late y here, early _ (List.mem_map_of_mem member)⟩
  have bound := quiet_le q (all ▸ past)
  have timely : quiet ≤ t.limit b l := by
    rw [limit_of_alive alive]
    omega
  obtain ⟨-, received, summary, outcome⟩ := exchange_of_quiet alive concluded timely
  rw [all] at received
  exact ⟨received, summary, outcome⟩

/-! ### Waiting for the record -/

theorem attempt_not_resultTimeout (t : Trial) (b : Brokers σ) (source : Entropy)
    (bind : String → Except String Address) (s : σ) (d : Duration) :
    (t.attempt b source bind s).outcome ≠ .error (.resultTimeout d) := by
  intro timeout
  obtain ⟨e, failed, early⟩ | judge := t.attempt_outcome b source bind s
  · rw [timeout] at failed
    cases failed
    cases early
  · rw [timeout] at judge
    obtain ⟨judged, -⟩ | ⟨judged, -⟩ := t.judge_cases (t.attempt b source bind s).sent
      (t.attempt b source bind s).received
    · rw [judged] at judge
      cases judge
    · rw [judged] at judge
      cases judge

end Trial

/-- Once a trial has launched its sender and its receiver, it is settled by when messages come. Unless the
sender dies, which ends the exchange at once, either there is quiet within the join timeout after the
sender, and all that was acknowledged by then is judged; or the receiver is given up. The record is never
waited for in vain, and if nothing is acknowledged after the sender came to its end, quiet comes in time. -/
theorem exchange_settled_by_arrivals (t : Trial) (b : Brokers σ) (source : Entropy)
    (bind : String → Except String Address) (s : σ) :
    let a := t.attempt b source bind s
    let r := (t.run b source bind s).report
    (∀ d, r.outcome ≠ .error (.resultTimeout d)) ∧
    ∀ l, t.setup b source bind s = .ok l →
      let sending := t.sending b l
      let inbox := (t.reception b l).inbox
      let window := t.tuning.receive.quiescenceWindow
      let patience := t.tuning.receive.joinTimeout
      a.time ≤ sending.time + patience ∧
      (sending.died = true →
        a.time = sending.time ∧ r.outcome = .error .senderDied ∧ r.received = [] ∧ r.summary = none) ∧
      (sending.died = false →
        r.summary = some sending.summary ∧
        (∃ quiet, t.QuietAt b l quiet ∧ (t.reception b l).quiet = quiet ∧
          (quiet < sending.time + patience →
            a.time = max sending.time quiet ∧
            r.received = inbox.admissions.map Prod.snd ∧
            inbox.admissions = t.acknowledgedBefore b l quiet ∧
            (inbox.acknowledged.map Response.ticket).Pairwise (· < ·) ∧
            (0 < window → ∀ x ∈ inbox.admissions, x.1 < quiet) ∧
            r.outcome = t.judge r.sent r.received) ∧
          (sending.time + patience < quiet →
            a.time = sending.time + patience ∧ r.received = [] ∧
            r.outcome = .error (.receiverTimeout (.ofMillis patience)))) ∧
        (window < patience → (∀ x ∈ inbox.admissions, x.1 ≤ sending.time) →
          ∀ d, r.outcome ≠ .error (.receiverTimeout d))) := by
  intro a r
  refine ⟨t.attempt_not_resultTimeout b source bind s, fun l setup => ?_⟩
  intro sending inbox window patience
  have launched : a = t.converse b l := Trial.attempt_of_ok setup
  have outcome : r.outcome = (t.exchange b l).outcome := congrArg Attempt.outcome launched
  have received : r.received = (t.exchange b l).received := congrArg Attempt.received launched
  have summary : r.summary = (t.exchange b l).summary := congrArg Attempt.summary launched
  have sent : r.sent = l.sent := congrArg Attempt.sent launched
  have time : a.time = (t.exchange b l).time := congrArg Attempt.time launched
  obtain ⟨-, opened⟩ := Trial.setup_ok setup
  obtain ⟨quiet, q, concluded⟩ := Trial.reception_concluded (t := t) (b := b) opened
  rw [outcome, received, summary, sent, time]
  cases died : sending.died with
  | true =>
    have exchange := Trial.exchange_of_died died
    refine ⟨?_, fun _ => ?_, fun alive => by cases alive⟩
    · rw [exchange]
      exact Nat.le_add_right ..
    · rw [exchange]
      exact ⟨rfl, rfl, rfl, rfl⟩
  | false =>
    have limit : t.limit b l = sending.time + patience := Trial.limit_of_alive died
    have all : inbox.admissions = t.acknowledgedBefore b l quiet := concluded.admissions_eq
    rcases Nat.lt_or_ge (t.limit b l) quiet with late | timely
    · obtain ⟨time, received, summary, outcome⟩ := Trial.exchange_of_loud died concluded late
      rw [limit] at late time
      refine ⟨Nat.le_of_eq time, fun dead => (by cases dead), fun _ => ⟨summary, ?_, fun wider past => ?_⟩⟩
      · exact ⟨quiet, q, concluded.quiet_eq, fun timely => absurd late (Nat.lt_asymm timely),
          fun _ => ⟨time, received, outcome⟩⟩
      · rw [all] at past
        have bound : quiet ≤ sending.time + window := Trial.quiet_le q past
        omega
    · obtain ⟨time, received, summary, outcome⟩ := Trial.exchange_of_quiet died concluded timely
      rw [limit] at timely
      refine ⟨?_, fun dead => (by cases dead), fun _ => ⟨summary, ?_, fun _ _ d => ?_⟩⟩
      · rw [time]
        exact Nat.max_le.mpr ⟨Nat.le_add_right .., timely⟩
      · refine ⟨quiet, q, concluded.quiet_eq, fun _ => ?_, fun late => absurd late (Nat.not_lt.mpr timely)⟩
        refine ⟨time, ?_, all, concluded.ascending, fun positive => ?_, outcome⟩
        · rw [received, all]
        · rw [all]
          exact Trial.acknowledgedBefore_lt opened q positive
      · obtain ⟨judged, -⟩ | ⟨judged, -⟩ := t.judge_cases l.sent (t.exchange b l).received
        · simp [outcome, judged]
        · simp [outcome, judged]

/-- One message to one receiver. -/
def Trial.dedicatedOfOne : Trial where
  analysis := ⟨"a"⟩
  messageCount := 1
  tuning := { messageLength := 1 }
  mode := .dedicated
  nodes := ["http://a", "http://b"]
  sound := rfl

/-- The message comes again before there is quiet. -/
theorem exchange_settled_by_arrivals_again :
    let t := Trial.dedicatedOfOne
    let b := (Rehearsal.ofNodes t.nodes fun _ => { later := [(9000, Rehearsal.Stage.plain)] }).brokers
      fun _ => some "/results"
    let bind (_ : String) : Except String Address := .ok ⟨Address.loopback, 80⟩
    let a := t.attempt b (.counting 1 1) bind {}
    let r := (t.run b (.counting 1 1) bind {}).report
    ∃ l quiet, t.setup b (.counting 1 1) bind {} = .ok l ∧ (t.sending b l).died = false ∧
      t.QuietAt b l quiet ∧ quiet < (t.sending b l).time + t.tuning.receive.joinTimeout ∧
      a.time = max (t.sending b l).time quiet ∧
      r.received = (t.reception b l).inbox.admissions.map Prod.snd ∧
      r.outcome = t.judge r.sent r.received := by
  intro t b bind a r
  have facts : (match t.setup b (.counting 1 1) bind {} with
      | .ok l => some (l.time, (t.sending b l).time, (t.sending b l).died,
          (Reception.messages (t.arrivals b l)).map Prod.fst)
      | .error _ => none) = some (0, 0, false, [0, 9000]) := by
    cbv
  obtain ⟨-, settled⟩ := exchange_settled_by_arrivals t b (.counting 1 1) bind {}
  cases setup : t.setup b (.counting 1 1) bind {} with
  | error e => simp [setup] at facts
  | ok l =>
    simp only [setup, Option.some.injEq, Prod.mk.injEq] at facts
    obtain ⟨launched, sent, alive, times⟩ := facts
    obtain ⟨-, -, lives⟩ := settled l setup
    obtain ⟨-, ⟨quiet, q, -, timely, -⟩, -⟩ := lives alive
    have early : quiet ≤ 24000 := by
      refine q.2 ⟨by rw [launched]; decide, fun x member _ => ?_⟩
      have here := List.mem_map_of_mem (f := Prod.fst) member
      rw [times] at here
      exact Nat.add_le_add_right (by simp at here; omega : x.1 ≤ 9000) 15000
    have soon : quiet < (t.sending b l).time + t.tuning.receive.joinTimeout := by
      rw [sent]
      exact Nat.lt_of_le_of_lt early (by decide)
    obtain ⟨time, received, -, -, -, outcome⟩ := timely soon
    exact ⟨l, quiet, rfl, alive, q, soon, time, received, outcome⟩

/-- A sender that dies leaves what is acknowledged unjudged, though there would be quiet in time. -/
theorem exchange_unsettled_by_arrivals_of_died :
    let t := Trial.dedicatedOfOne
    let b := (Rehearsal.ofNodes t.nodes fun _ => { dies := true }).brokers fun _ => some "/results"
    let bind (_ : String) : Except String Address := .ok ⟨Address.loopback, 80⟩
    let a := t.attempt b (.counting 1 1) bind {}
    let r := (t.run b (.counting 1 1) bind {}).report
    ∃ l quiet, t.setup b (.counting 1 1) bind {} = .ok l ∧ t.QuietAt b l quiet ∧
      quiet < (t.sending b l).time + t.tuning.receive.joinTimeout ∧
      a.time ≠ max (t.sending b l).time quiet ∧ r.outcome ≠ t.judge r.sent r.received := by
  intro t b bind a r
  have facts : (match t.setup b (.counting 1 1) bind {} with
      | .ok l => some (l.time, (t.sending b l).time, (t.sending b l).died, t.arrivals b l)
      | .error _ => none) = some (0, 0, true, []) := by
    cbv
  cases setup : t.setup b (.counting 1 1) bind {} with
  | error e => simp [setup] at facts
  | ok l =>
    simp only [setup, Option.some.injEq, Prod.mk.injEq] at facts
    obtain ⟨launched, sent, died, none⟩ := facts
    have exchange := Trial.exchange_of_died died
    have attempt : a = t.converse b l := Trial.attempt_of_ok setup
    have time : a.time = 0 := by
      rw [attempt, Trial.converse, exchange]
      exact sent
    have outcome : r.outcome = .error .senderDied := by
      have same : r.outcome = a.outcome := rfl
      rw [same, attempt, Trial.converse, exchange]
    refine ⟨l, 15000, rfl, ⟨⟨?_, ?_⟩, fun q other => ?_⟩, ?_, ?_, ?_⟩
    · rw [launched]
      decide
    · rw [none]
      simp [Reception.messages]
    · have passed := other.1
      rw [launched, Nat.zero_add] at passed
      exact passed
    · rw [sent]
      decide
    · rw [time, sent]
      decide
    · rw [outcome]
      obtain ⟨judged, -⟩ | ⟨judged, -⟩ := t.judge_cases r.sent r.received
      · simp [judged]
      · simp [judged]

end BrokerTrial
