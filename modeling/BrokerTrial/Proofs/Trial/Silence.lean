import Mathlib
import BrokerTrial.Proofs.Trial.Room
import BrokerTrial.Proofs.Verification

/-!
# Silence ends the reception

The receiver does not know whether messages are still being sent. A window without a message ends the reception, also
in the middle of a slow call, and nothing but such a window does: what comes before it is received.
-/

namespace BrokerTrial

variable {σ : Type}

open Reception (messages)

/-! ### Messages among requests -/

namespace Reception

theorem messages_map_time (f : Nat → Nat) (came : List (Nat × Delivery)) :
    messages (came.map fun x => (f x.1, x.2)) = (messages came).map fun x => (f x.1, x.2) := by
  induction came with
  | nil => rfl
  | cons x rest ih =>
    obtain ⟨time, d⟩ := x
    rw [List.map_cons, messages_cons, messages_cons, ih, List.map_append]
    cases d.message.toOption <;> rfl

theorem map_messages_time (f : Nat → Nat) (came : List (Nat × Delivery)) :
    (messages (came.map fun x => (f x.1, x.2))).map Prod.snd = (messages came).map Prod.snd := by
  rw [messages_map_time, List.map_map]
  rfl

end Reception

theorem Delivery.message?_welcome (d : Delivery) : d.welcome.message? = d.message.toOption := by
  unfold welcome
  obtain ⟨m, -, same⟩ | ⟨-, a, same, other, -⟩ := d.message_cases
  · rw [same]
    rfl
  · rw [same]
    cases a with
    | accepted m => exact absurd rfl other
    | unavailable | notFound | methodNotAllowed | tooLarge | malformed => rfl

/-- If all are answered when they come, their messages are admitted in turn. -/
theorem Inbox.Prompt.admissions_eq {b : Inbox} {came : List (Nat × Delivery)} (h : b.Prompt came) :
    b.admissions = messages came := by
  have answered : ∀ came : List (Nat × Delivery),
      (came.mapIdx fun k x => (⟨k, x.1, x.2.welcome⟩ : Response)).filterMap
        (fun x => x.answer.message?.map (x.time, ·)) = messages came := by
    intro came
    induction came using List.reverseRecOn with
    | nil => rfl
    | append_singleton came x ih =>
      obtain ⟨time, d⟩ := x
      have last : messages [(time, d)] = (d.welcome.message?.map (time, ·)).toList := by
        rw [Reception.messages_cons, Delivery.message?_welcome]
        exact List.append_nil _
      have parts : messages (came ++ [(time, d)]) = messages came ++ messages [(time, d)] := List.filterMap_append
      rw [List.mapIdx_concat, List.filterMap_append, ih, parts, last]
      cases holds : d.welcome.message? with
      | none => rw [List.filterMap_cons_none (by simp [holds])]; rfl
      | some m => rw [List.filterMap_cons_some (by simp [holds]; rfl)]; rfl
  rw [← answered came, ← h.responses_eq]
  rfl

namespace Trial

variable {t : Trial} {b : Brokers σ} {l : Launch σ} {source : Entropy} {quiet : Nat}

/-! ### What is received -/

theorem map_snd_due (generated : (Generation.run source t.messageCount t.tuning.messageLength).result = .ok l.sent)
    (few : (messages (t.arrivals b l)).length ≤ t.messageCount * t.copies) :
    (t.opening b l).due.map Prod.snd = (messages ((t.arrivals b l).takeWhile (·.1 < l.time))).map Prod.snd := by
  have spacious := opening_spacious (b := b) generated
  have early : (messages (((t.arrivals b l).takeWhile (·.1 < l.time)).map fun x => (max l.opened x.1, x.2))).length ≤
      t.messageCount * t.copies := by
    rw [Reception.messages_map_time, List.length_map]
    exact Nat.le_trans (Inbox.messages_sublist (List.takeWhile_sublist _)) few
  have prompt := spacious.prompt rfl early
  rw [Reception.due, prompt.waiting, prompt.admissions_eq, List.map_nil, List.append_nil]
  exact Reception.map_messages_time _ _

/-- Of no more messages than are due, all that come before there is quiet are acknowledged. -/
theorem map_snd_acknowledgedBefore
    (generated : (Generation.run source t.messageCount t.tuning.messageLength).result = .ok l.sent)
    (few : (messages (t.arrivals b l)).length ≤ t.messageCount * t.copies) (q : t.QuietAt b l quiet) :
    (t.acknowledgedBefore b l quiet).map Prod.snd =
      ((messages (t.arrivals b l)).filter (·.1 < quiet)).map Prod.snd := by
  obtain ⟨split, early, late⟩ := messages_split (t := t) (b := b) (l := l)
  have launched : l.time ≤ quiet := Nat.le_trans (Nat.le_add_right ..) q.1.1
  have all : (messages ((t.arrivals b l).takeWhile (·.1 < l.time))).filter (·.1 < quiet) =
      messages ((t.arrivals b l).takeWhile (·.1 < l.time)) :=
    List.filter_eq_self.mpr fun x member => decide_eq_true (Nat.lt_of_lt_of_le (early x member) launched)
  rw [acknowledgedBefore, List.map_append, map_snd_due generated few, split, filter_between early late,
    List.filter_append, List.map_append, all]

/-- If quiet comes in time, exactly the messages before it are received. -/
theorem received_of_quiet (alive : (t.sending b l).died = false)
    (generated : (Generation.run source t.messageCount t.tuning.messageLength).result = .ok l.sent)
    (few : (messages (t.arrivals b l)).length ≤ t.messageCount * t.copies) (q : t.QuietAt b l quiet)
    (concluded : (t.reception b l).Concluded quiet (t.limit b l) (t.acknowledgedBefore b l quiet))
    (timely : quiet ≤ t.limit b l) :
    (t.exchange b l).received = ((messages (t.arrivals b l)).filter (·.1 < quiet)).map Prod.snd ∧
      (t.exchange b l).outcome = t.judge l.sent (t.exchange b l).received := by
  obtain ⟨-, received, -, outcome⟩ := exchange_of_quiet alive concluded timely
  rw [map_snd_acknowledgedBefore generated few q] at received
  exact ⟨received, outcome⟩

/-- A message that comes after the launch and before there is quiet is put into the queue at that moment. -/
theorem answered_of_quiet (opened : l.opened ≤ l.time)
    (generated : (Generation.run source t.messageCount t.tuning.messageLength).result = .ok l.sent)
    (few : (messages (t.arrivals b l)).length ≤ t.messageCount * t.copies)
    (concluded : (t.reception b l).Concluded quiet (t.limit b l) (t.acknowledgedBefore b l quiet))
    {k time : Nat} {d : Delivery} {m : Message} (came : (t.arrivals b l)[k]? = some (time, d)) (carries : d.Carries m)
    (late : l.time ≤ time) (early : time < quiet) : ⟨k, time, .accepted m⟩ ∈ (t.exchange b l).inbox.responses := by
  have roomy := exchange_roomy (b := b) opened generated
  refine roomy.atOnce k time d m ?_ carries ?_ ?_
  · rw [List.getElem?_map, came, Option.map_some, Nat.max_eq_right (Nat.le_trans opened late)]
  · have part := Inbox.messages_sublist
      (List.take_sublist (k + 1) ((t.arrivals b l).map fun x => (max l.opened x.1, x.2)))
    rw [Reception.messages_map_time, List.length_map] at part
    exact Nat.le_trans part few
  · intro leaving left
    rw [concluded.ended_eq] at left
    split at left
    · cases left
      exact early
    · cases left

/-! ### Copies that come in time -/

/-- If quiet comes after all times, no two of them are a window apart. -/
theorem brisk_of_lt {start window : Nat} {times : List Nat} (sorted : (start :: times).Pairwise (· ≤ ·))
    (least : ∀ q, start + window ≤ q → (∀ time ∈ times, time < q → time + window ≤ q) → quiet ≤ q)
    (early : ∀ time ∈ times, time < quiet) : (start :: times).IsChain fun x y => x ≤ y ∧ y < x + window := by
  induction times generalizing start with
  | nil => exact List.isChain_singleton _
  | cons first rest ih =>
    obtain ⟨after, ordered⟩ := List.pairwise_cons.mp sorted
    have le : start ≤ first := after first List.mem_cons_self
    refine List.isChain_cons_cons.mpr ⟨⟨le, Nat.lt_of_not_le fun gap => ?_⟩, ?_⟩
    · -- there would be quiet in the gap
      have inside : quiet ≤ start + window := by
        refine least _ (Nat.le_refl _) fun time member before => ?_
        rcases List.mem_cons.mp member with rfl | later
        · omega
        · have := (List.pairwise_cons.mp ordered).1 time later
          omega
      have last := early first List.mem_cons_self
      omega
    · refine ih ordered (fun q passed heard => least q (by omega) fun time member before => ?_)
        fun time member => early time (List.mem_cons_of_mem _ member)
      rcases List.mem_cons.mp member with rfl | later
      · exact passed
      · exact heard time later before

theorem judge_eq_ok_iff {sent received : List Message} :
    (∃ v, t.judge sent received = .ok v) ↔ (Verification.check sent received t.copies).passed = true := by
  have verdict : t.mode.verify sent received t.nodes.length = Verification.check sent received t.copies := rfl
  obtain ⟨judged, passed⟩ | ⟨judged, failed⟩ := t.judge_cases sent received
  · rw [judged, ← verdict, passed]
    exact ⟨fun _ => rfl, fun _ => ⟨_, rfl⟩⟩
  · rw [judged, ← verdict, failed]
    exact ⟨nofun, nofun⟩

/-- Of copies that are all there, those before an instant pass only if there are no others. -/
theorem judge_before_eq_ok_iff {sent : List Message} {came : List (Nat × Message)} (distinct : sent.Nodup)
    (counts : ∀ m, (came.map Prod.snd).count m = if m ∈ sent then t.copies else 0) :
    (∃ v, t.judge sent ((came.filter (·.1 < quiet)).map Prod.snd) = .ok v) ↔ ∀ x ∈ came, x.1 < quiet := by
  rw [judge_eq_ok_iff]
  constructor
  · intro passed
    have same : ((came.filter (·.1 < quiet)).map Prod.snd).Perm (came.map Prod.snd) := by
      refine List.perm_iff_count.mpr fun m => ?_
      rw [Verification.count_of_check_passed passed m, counts m]
    have length := same.length_eq
    rw [List.length_map, List.length_map, List.length_filter_eq_length_iff] at length
    exact fun x member => of_decide_eq_true (length x member)
  · intro early
    rw [List.filter_eq_self.mpr fun x member => decide_eq_true (early x member), Verification.check_passed_iff,
      Verification.discrepancies_eq_nil_iff_counts]
    refine ⟨fun m => ?_, Or.inr distinct⟩
    rw [counts m, distinct.count]
    split
    · rw [Nat.one_mul]
    · rw [Nat.zero_mul]

/-- Copies that come while messages are sent are received if and only if no window passes without one. -/
theorem exchange_eq_ok_iff (opened : l.opened ≤ l.time) (alive : (t.sending b l).died = false)
    (generated : (Generation.run source t.messageCount t.tuning.messageLength).result = .ok l.sent)
    (few : (messages (t.arrivals b l)).length ≤ t.messageCount * t.copies)
    (during : ∀ x ∈ messages (t.arrivals b l), l.time ≤ x.1 ∧ x.1 ≤ (t.sending b l).time)
    (counts : ∀ m, ((messages (t.arrivals b l)).map Prod.snd).count m = if m ∈ l.sent then t.copies else 0) :
    (∃ v, (t.exchange b l).outcome = .ok v) ↔
      (l.time :: (messages (t.arrivals b l)).map Prod.fst).IsChain
        fun x y => x ≤ y ∧ y < x + t.tuning.receive.quiescenceWindow := by
  obtain ⟨quiet, q, concluded⟩ := reception_concluded (t := t) (b := b) opened
  have distinct : l.sent.Nodup := (Generation.run_ok generated).2.of_map
  have settled (timely : quiet ≤ t.limit b l) :
      (∃ v, (t.exchange b l).outcome = .ok v) ↔ ∀ x ∈ messages (t.arrivals b l), x.1 < quiet := by
    obtain ⟨received, outcome⟩ := received_of_quiet alive generated few q concluded timely
    rw [outcome, received]
    exact judge_before_eq_ok_iff distinct counts
  constructor
  · intro passed
    rcases Nat.lt_or_ge (t.limit b l) quiet with loud | timely
    · obtain ⟨v, passed⟩ := passed
      obtain ⟨-, -, -, outcome⟩ := exchange_of_loud alive concluded loud
      rw [passed] at outcome
      cases outcome
    · have early := (settled timely).mp passed
      refine brisk_of_lt ?_ (fun instant passed heard => q.2 ⟨passed, fun x member => ?_⟩) ?_
      · refine List.pairwise_cons.mpr ⟨fun time member => ?_, ?_⟩
        · obtain ⟨x, here, rfl⟩ := List.mem_map.mp member
          exact (during x here).1
        · exact (b.arrivals_sorted ..).sublist (Reception.messages_times_sublist _)
      · exact heard x.1 (List.mem_map_of_mem member)
      · intro time member
        obtain ⟨x, here, rfl⟩ := List.mem_map.mp member
        exact early x here
  · intro brisk
    have early : ∀ time ∈ (messages (t.arrivals b l)).map Prod.fst, time < quiet := by
      refine lt_of_brisk brisk q.1.1 fun time member before => ?_
      obtain ⟨x, here, rfl⟩ := List.mem_map.mp member
      exact q.1.2 x here before
    have timely : quiet ≤ t.limit b l := by
      obtain ⟨-, -, tuning⟩ := t.sound_parts
      have wide := (Tuning.validate_ok tuning).2
      have launched : l.time ≤ (t.sending b l).time := le_sending_time
      rw [limit_of_alive alive]
      refine Nat.le_trans (q.2 ⟨?_, fun x member _ => ?_⟩) (Nat.add_le_add_left wide _)
      · exact Nat.add_le_add_right launched _
      · exact Nat.add_le_add_right (during x member).2 _
    exact (settled timely).mpr fun x member => early x.1 (List.mem_map_of_mem member)

end Trial

/-- A message that comes while messages are sent is answered with success and received, unless a whole window has passed
before it without one. So if each copy comes once while messages are sent, the trial passes if and only if the first
of them comes within a window of the launch and each later one within a window of the one before. -/
theorem silence_ends_reception (t : Trial) (b : Brokers σ) (source : Entropy)
    (bind : String → Except String Address) (s : σ) {l : Launch σ} (setup : t.setup b source bind s = .ok l)
    (alive : (t.sending b l).died = false)
    (few : (messages (t.arrivals b l)).length ≤ t.messageCount * t.copies) :
    let run := t.run b source bind s
    let r := run.report
    let window := t.tuning.receive.quiescenceWindow
    ∃ quiet inbox, t.QuietAt b l quiet ∧ run.inbox = some inbox ∧
      (∀ k time d m, (t.arrivals b l)[k]? = some (time, d) → d.Carries m → l.time ≤ time → time < quiet →
        ⟨k, time, .accepted m⟩ ∈ inbox.responses ∧ (Answer.accepted m).status = 200) ∧
      ((∀ waited, r.outcome ≠ .error (.receiverTimeout waited)) →
        r.received = ((messages (t.arrivals b l)).filter (·.1 < quiet)).map Prod.snd) ∧
      ((∀ x ∈ messages (t.arrivals b l), l.time ≤ x.1 ∧ x.1 ≤ (t.sending b l).time) →
        (∀ m, ((messages (t.arrivals b l)).map Prod.snd).count m = if m ∈ r.sent then t.copies else 0) →
        r.cleanupFailures = [] →
          (r.passed = true ↔
            (l.time :: (messages (t.arrivals b l)).map Prod.fst).IsChain fun x y => x ≤ y ∧ y < x + window)) := by
  intro run r window
  have launched : t.attempt b source bind s = t.converse b l := Trial.attempt_of_ok setup
  have outcome : r.outcome = (t.exchange b l).outcome := congrArg Attempt.outcome launched
  have received : r.received = (t.exchange b l).received := congrArg Attempt.received launched
  have sent : r.sent = l.sent := congrArg Attempt.sent launched
  obtain ⟨generated, opened⟩ := Trial.setup_ok setup
  obtain ⟨quiet, q, concluded⟩ := Trial.reception_concluded (t := t) (b := b) opened
  refine ⟨quiet, (t.exchange b l).inbox, q, congrArg Attempt.inbox launched, fun k time d m came carries late early => ?_,
    fun patient => ?_, fun during counts clean => ?_⟩
  · exact ⟨Trial.answered_of_quiet opened generated few concluded came carries late early, rfl⟩
  · rcases Nat.lt_or_ge (t.limit b l) quiet with loud | timely
    · obtain ⟨-, -, -, timeout⟩ := Trial.exchange_of_loud alive concluded loud
      exact absurd (outcome.trans timeout) (patient _)
    · rw [received]
      exact (Trial.received_of_quiet alive generated few q concluded timely).1
  · rw [sent] at counts
    have passed : r.passed = true ↔ ∃ v, r.outcome = .ok v := by
      rw [Report.passed, clean, List.isEmpty_nil, Bool.and_true]
      cases r.outcome <;> simp
    rw [passed, outcome]
    exact Trial.exchange_eq_ok_iff opened alive generated few during counts

/-- Two slow calls take nearly twice the window, and each brings its copy. -/
theorem silence_ends_reception_slowly :
    let t := Trial.dedicatedOfTwo
    let source := Entropy.counting 2 1
    let b := (Rehearsal.ofNodes t.nodes fun _ => { delay := 14000 }).brokers fun _ => some "/results"
    let bind (_ : String) : Except String Address := .ok ⟨Address.loopback, 80⟩
    let r := (t.run b source bind {}).report
    ∃ l, t.setup b source bind {} = .ok l ∧ (t.sending b l).died = false ∧
      (messages (t.arrivals b l)).length ≤ t.messageCount * t.copies ∧
      t.tuning.receive.quiescenceWindow < (t.sending b l).time - l.time ∧ r.passed = true := by
  intro t source b bind r
  have facts : (t.setup b source bind {}).toOption.map (fun l =>
      (l.time, (t.sending b l).died, (t.sending b l).time, messages (t.arrivals b l))) =
      some (0, false, 28000, [(14000, ⟨"00"⟩), (28000, ⟨"01"⟩)]) := by
    cbv
  have clean : r.cleanupFailures = [] ∧ r.sent = [⟨"00"⟩, ⟨"01"⟩] := by
    subst r b bind t source
    cbv
  cases setup : t.setup b source bind {} with
  | error e =>
    rw [setup] at facts
    cases facts
  | ok l =>
    rw [setup] at facts
    have facts := Option.some.inj facts
    simp only [Prod.mk.injEq] at facts
    obtain ⟨launched, alive, ended, came⟩ := facts
    have few : (messages (t.arrivals b l)).length ≤ t.messageCount * t.copies := by
      rw [came]
      decide
    obtain ⟨quiet, inbox, -, -, -, -, passes⟩ := silence_ends_reception t b source bind {} setup alive few
    refine ⟨l, rfl, alive, few, by rw [launched, ended]; decide, (passes ?_ ?_ clean.1).mpr ?_⟩
    · rw [came, launched, ended]
      decide
    · intro m
      have distinct : ([⟨"00"⟩, ⟨"01"⟩] : List Message).Nodup := by decide
      rw [came, clean.2]
      exact distinct.count
    · rw [came, launched]
      decide

/-- The first copy comes while the second message is being sent, but a window has passed before it. -/
theorem silence_ends_reception_before_sending_ends :
    let t := Trial.dedicatedOfTwo
    let source := Entropy.counting 2 1
    let b := (Rehearsal.ofNodes t.nodes fun k => { delay := if k = 0 then 20000 else 1000 }).brokers
      fun _ => some "/results"
    let bind (_ : String) : Except String Address := .ok ⟨Address.loopback, 80⟩
    let run := t.run b source bind {}
    let r := run.report
    ∃ l inbox, t.setup b source bind {} = .ok l ∧ 0 < t.tuning.receive.quiescenceWindow ∧
      r.summary = some ⟨2, 0⟩ ∧ r.cleanupFailures = [] ∧ (t.sending b l).time = 21000 ∧
      messages (t.arrivals b l) = [(20000, ⟨"00"⟩), (21000, ⟨"01"⟩)] ∧ r.sent = [⟨"00"⟩, ⟨"01"⟩] ∧ t.copies = 1 ∧
      run.inbox = some inbox ∧ inbox.responses = [⟨0, 20000, .unavailable⟩, ⟨1, 21000, .unavailable⟩] ∧
      (∀ waited, r.outcome ≠ .error (.receiverTimeout waited)) ∧ r.received = [] ∧ r.passed = false := by
  intro t source b bind run r
  have facts : (t.setup b source bind {}).toOption.map (fun l =>
      ((t.sending b l).time, (t.sending b l).died, (t.reception b l).ended, messages (t.arrivals b l))) =
      some (21000, false, some 15000, [(20000, ⟨"00"⟩), (21000, ⟨"01"⟩)]) := by
    cbv
  have report : (r.summary, r.cleanupFailures, r.sent, r.received, r.passed, run.inbox.map (·.responses)) =
      (some ⟨2, 0⟩, [], [⟨"00"⟩, ⟨"01"⟩], [], false,
        some [⟨0, 20000, .unavailable⟩, ⟨1, 21000, .unavailable⟩]) := by
    subst r run b bind t source
    cbv
  simp only [Prod.mk.injEq] at report
  obtain ⟨summary, clean, sent, received, passed, answered⟩ := report
  obtain ⟨inbox, opened, responses⟩ := Option.map_eq_some_iff.mp answered
  cases setup : t.setup b source bind {} with
  | error e =>
    rw [setup] at facts
    cases facts
  | ok l =>
    rw [setup] at facts
    have facts := Option.some.inj facts
    simp only [Prod.mk.injEq] at facts
    obtain ⟨finished, alive, ended, came⟩ := facts
    have outcome : r.outcome = t.judge l.sent (t.reception b l).record := by
      have same : r.outcome = (t.exchange b l).outcome := congrArg Attempt.outcome (Trial.attempt_of_ok setup)
      rw [same, Trial.exchange_of_ended alive ended]
    refine ⟨l, inbox, rfl, by decide, summary, clean, finished, came, sent, rfl, opened, responses,
      fun waited timeout => ?_, received, passed⟩
    rw [outcome] at timeout
    obtain ⟨judged, -⟩ | ⟨judged, -⟩ := t.judge_cases l.sent (t.reception b l).record
    · rw [judged] at timeout
      cases timeout
    · rw [judged] at timeout
      cases timeout

end BrokerTrial
