import Mathlib
import BrokerTrial.Proofs.Inbox.Intake
import BrokerTrial.Proofs.Trial.Bounds

/-!
# Room for every copy

There is room at the collector for every copy that is due, and its receiver can only make more of it. So until
more messages have come than there are copies due, each is acknowledged at the moment it comes, whether or not
anybody takes one.
-/

namespace BrokerTrial

variable {b b' : Inbox} {d : Delivery} {m : Message} {r : Reception} {room : Nat} {left left' : Option Nat}
  {came new : List (Nat × Delivery)}

open Reception (messages)

/-- The answer to a request for which there is room. -/
def Delivery.welcome (d : Delivery) : Answer :=
  match d.message with
  | .ok m => .accepted m
  | .error a => a

theorem Delivery.welcome_of_carries (carries : d.Carries m) : d.welcome = .accepted m := by
  unfold welcome
  rw [message_eq_ok_iff.mpr carries]

theorem Delivery.welcome_status (d : Delivery) : d.welcome.status ≠ 503 := by
  unfold welcome
  obtain ⟨m, -, same⟩ | ⟨-, a, same, -, other⟩ := d.message_cases
  · rw [same]
    exact (by decide : 200 ≠ 503)
  · rw [same]
    exact other

namespace Inbox

/-- What an inbox owes to those who came to it, up to when its receiver left: whoever came while there was room
for all messages so far was put into the queue at that moment, and if one was turned away, more messages had come
than there is room for. -/
structure Roomy (room : Nat) (came : List (Nat × Delivery)) (left : Option Nat) (b : Inbox) : Prop where
  atOnce : ∀ k time d m, came[k]? = some (time, d) → d.Carries m →
    (messages (came.take (k + 1))).length ≤ room → (∀ leaving ∈ left, time < leaving) →
      ⟨k, time, .accepted m⟩ ∈ b.responses
  turnedAway : ∀ x ∈ b.responses, x.answer.status = 503 → (∀ leaving ∈ left, x.time < leaving) →
    room < (messages (came.filter (·.1 ≤ x.time))).length
  nobodyWaits : left = none → (messages came).length ≤ room →
    b.waiting = [] ∧ b.admitted = [] ∧ b.responses = came.mapIdx fun k x => ⟨k, x.1, x.2.welcome⟩

/-- The request that an event brings, if it brings one, with its time. -/
def newcomer (now : Nat) (d? : Option Delivery) : List (Nat × Delivery) := (d?.map (now, ·)).toList

theorem append_newcomer_none (came : List (Nat × Delivery)) (now : Nat) : came ++ newcomer now none = came :=
  List.append_nil came

theorem newcomer_fst {now : Nat} {d? : Option Delivery} : ∀ x ∈ newcomer now d?, x.1 = now := by
  intro x member
  obtain ⟨d, -, rfl⟩ := Option.map_eq_some_iff.mp (Option.mem_toList.mp member)
  rfl

theorem length_newcomer_le (now : Nat) (d? : Option Delivery) : (newcomer now d?).length ≤ 1 := by
  cases d? with
  | none => exact Nat.zero_le 1
  | some d => exact Nat.le_refl 1

/-! ### Requests that are answered when they come -/

/-- Each request was answered when it came, and nothing is in the queue but messages that came. -/
structure Prompt (came : List (Nat × Delivery)) (b : Inbox) : Prop where
  arrived_eq : b.arrived = came.length
  waiting : b.waiting = []
  admitted : b.admitted = []
  queue_le : b.queue.length ≤ (messages came).length
  responses_eq : b.responses = came.mapIdx fun k x => ⟨k, x.1, x.2.welcome⟩

theorem Prompt.post (h : b.Prompt came) (attended : b.attended = true)
    (few : (messages (came ++ [(b.now, d)])).length ≤ b.capacity) :
    (b.post d).Prompt (came ++ [(b.now, d)]) := by
  have arrived : b.arrived + 1 = (came ++ [(b.now, d)]).length := by
    rw [h.arrived_eq, List.length_append, List.length_singleton]
  have answered (a : Answer) (same : d.welcome = a) : b.responses ++ [⟨b.arrived, b.now, a⟩] =
      (came ++ [(b.now, d)]).mapIdx fun k x => ⟨k, x.1, x.2.welcome⟩ := by
    rw [List.mapIdx_concat, h.responses_eq, h.arrived_eq, ← same]
  have came_eq : messages (came ++ [(b.now, d)]) = messages came ++ messages [(b.now, d)] :=
    List.filterMap_append
  have queue_le := h.queue_le
  rw [came_eq, List.length_append] at few
  cases holds : d.message with
  | error a =>
    rw [post_of_error holds]
    refine ⟨arrived, h.waiting, h.admitted, ?_, answered a (by rw [Delivery.welcome, holds])⟩
    rw [came_eq, List.length_append]
    exact Nat.le_add_right_of_le queue_le
  | ok m =>
    have one : (messages [(b.now, d)]).length = 1 := by simp [messages, holds, Except.toOption]
    have free : b.queue.length < b.capacity := by omega
    rw [post_of_ok holds h.admitted, if_neg (by simp [attended, free]), if_pos free]
    refine ⟨arrived, h.waiting, h.admitted, ?_, answered (.accepted m) (by rw [Delivery.welcome, holds])⟩
    rw [came_eq, List.length_append, List.length_append, List.length_singleton]
    omega

theorem Prompt.resume (h : b.Prompt came) (ticket : Nat) : b.resume ticket = b := by
  simp [Inbox.resume, h.admitted, h.waiting]

theorem Prompt.receive (h : b.Prompt came) (taken : b.receive = some (m, b')) : b'.Prompt came := by
  obtain ⟨queue, filled, ⟨-, rfl⟩ | ⟨w, waiting, some, -⟩⟩ := receive_cases taken
  · have queue_le := h.queue_le
    rw [filled, List.length_cons] at queue_le
    exact ⟨h.arrived_eq, h.waiting, h.admitted, Nat.le_of_succ_le queue_le, h.responses_eq⟩
  · rw [h.waiting] at some
    cases some

theorem Prompt.step (h : b.Prompt came) (attended : b.attended = true) (e : Event)
    (few : (messages (came ++ newcomer b.now e.delivery?)).length ≤ b.capacity) :
    (b.step e).Prompt (came ++ newcomer b.now e.delivery?) := by
  cases e with
  | post d => exact h.post attended few
  | resume ticket =>
    rw [Event.delivery?, append_newcomer_none, Inbox.step, h.resume ticket]
    exact h
  | tick time =>
    rw [Event.delivery?, append_newcomer_none]
    exact ⟨h.arrived_eq, h.waiting, h.admitted, h.queue_le, h.responses_eq⟩

theorem Prompt.status (h : b.Prompt came) : ∀ x ∈ b.responses, x.answer.status ≠ 503 := by
  intro x member
  rw [h.responses_eq] at member
  obtain ⟨k, bound, rfl⟩ := List.mem_mapIdx.mp member
  exact Delivery.welcome_status _

/-! ### What every event keeps -/

/-- An inbox with this much room that owes nothing so far. -/
structure Spacious (room : Nat) (came : List (Nat × Delivery)) (left : Option Nat) (b : Inbox) : Prop
    extends Roomy room came left b where
  capacity_eq : b.capacity = room
  attended_eq : b.attended = left.isNone
  left_le : ∀ leaving ∈ left, leaving ≤ b.now
  came_le : ∀ x ∈ came, x.1 ≤ b.now
  prompt : left = none → (messages came).length ≤ room → b.Prompt came

theorem left_eq_none {time now : Nat} (late : now ≤ time) (left_le : ∀ leaving ∈ left, leaving ≤ now)
    (early : ∀ leaving ∈ left, time < leaving) : left = none := by
  refine Option.eq_none_iff_forall_not_mem.mpr fun leaving gone => ?_
  have before := early leaving gone
  have after := left_le leaving gone
  omega

theorem filter_of_le {now : Nat} (came_le : ∀ x ∈ came, x.1 ≤ now) : came.filter (·.1 ≤ now) = came :=
  List.filter_eq_self.mpr fun x member => decide_eq_true (came_le x member)

theorem messages_sublist {some all : List (Nat × Delivery)} (part : some.Sublist all) :
    (messages some).length ≤ (messages all).length :=
  (part.filterMap _).length_le

namespace Spacious

/-- Requests that come, at most one at a time, and answers that are given all have the time of the event, and the
receiver has not left before it. So what is new is settled by whether there was room for all that came by then. -/
theorem next (h : b.Spacious room came left) (d? : Option Delivery) (capacity_eq : b'.capacity = b.capacity)
    (attended_eq : b'.attended = left'.isNone) (now_le : b.now ≤ b'.now)
    (stays : ∀ leaving ∈ left, leaving ∈ left') (left_le : ∀ leaving ∈ left', leaving ≤ b.now)
    (kept : b.responses ⊆ b'.responses)
    (fresh : ∀ x ∈ b'.responses, x ∈ b.responses ∨ x.time = b.now)
    (prompt : left' = none → (messages (came ++ newcomer b.now d?)).length ≤ room →
      b'.Prompt (came ++ newcomer b.now d?)) :
    b'.Spacious room (came ++ newcomer b.now d?) left' := by
  have came_le : ∀ x ∈ came ++ newcomer b.now d?, x.1 ≤ b.now := by
    intro x member
    rcases List.mem_append.mp member with old | new
    · exact h.came_le x old
    · exact Nat.le_of_eq (newcomer_fst x new)
  have going {time : Nat} (now : time = b.now) (early : ∀ leaving ∈ left', time < leaving) : left' = none :=
    left_eq_none (Nat.le_of_eq now.symm) left_le early
  refine ⟨⟨fun k time d m found carries few early => ?_, fun x member status early => ?_, fun going few => ?_⟩,
    capacity_eq.trans h.capacity_eq, attended_eq, fun leaving gone => Nat.le_trans (left_le leaving gone) now_le,
    fun x member => Nat.le_trans (came_le x member) now_le, prompt⟩
  · by_cases old : k < came.length
    · rw [List.getElem?_append_left old] at found
      rw [List.take_append_of_le_length old] at few
      exact kept (h.atOnce k time d m found carries few fun leaving gone => early leaving (stays leaving gone))
    · have last : (newcomer b.now d?)[k - came.length]? = some (time, d) := by
        rw [← List.getElem?_append_right (Nat.not_lt.mp old)]
        exact found
      have now : time = b.now := newcomer_fst (time, d) (List.mem_of_getElem? last)
      have all : (came ++ newcomer b.now d?).length ≤ k + 1 := by
        have one := length_newcomer_le b.now d?
        rw [List.length_append]
        omega
      rw [List.take_of_length_le all] at few
      rw [(prompt (going now early) few).responses_eq]
      refine List.mem_of_getElem? (i := k) ?_
      rw [List.getElem?_mapIdx, found, Option.map_some, Delivery.welcome_of_carries carries]
  · rcases fresh x member with old | now
    · have before := h.turnedAway x old status fun leaving gone => early leaving (stays leaving gone)
      exact Nat.lt_of_lt_of_le before (messages_sublist ((List.sublist_append_left ..).filter _))
    · refine Nat.lt_of_not_le fun few => ?_
      rw [now, filter_of_le came_le] at few
      exact (prompt (going now early) few).status x member status
  · have prompt := prompt going few
    exact ⟨prompt.waiting, prompt.admitted, prompt.responses_eq⟩

theorem step (h : b.Spacious room came left) (e : Event) :
    (b.step e).Spacious room (came ++ newcomer b.now e.delivery?) left := by
  have change := step_change (b := b) e
  refine h.next e.delivery? change.capacity_eq (change.attended_eq.trans h.attended_eq) change.now_le
    (fun leaving gone => gone) h.left_le change.responses_subset change.responses_new fun going few => ?_
  have before := Nat.le_trans (messages_sublist (List.sublist_append_left ..)) few
  refine (h.prompt going before).step ?_ e (h.capacity_eq.symm ▸ few)
  rw [h.attended_eq, going]
  rfl

theorem receive (h : b.Spacious room came left) (taken : b.receive = some (m, b')) :
    b'.Spacious room came left := by
  have prompt (going : left = none) (few : (messages came).length ≤ room) : b'.Prompt came :=
    (h.prompt going few).receive taken
  have same : b'.responses = b.responses ∧ b'.capacity = b.capacity ∧ b'.attended = b.attended ∧
      b'.now = b.now := by
    obtain ⟨queue, -, ⟨-, rfl⟩ | ⟨w, waiting, -, rfl⟩⟩ := receive_cases taken
    · exact ⟨rfl, rfl, rfl, rfl⟩
    · exact ⟨rfl, rfl, rfl, rfl⟩
  obtain ⟨responses, capacity, attended, now⟩ := same
  have next := h.next none capacity (attended.trans h.attended_eq) (Nat.le_of_eq now.symm)
    (fun leaving gone => gone) h.left_le (by rw [responses]; exact List.Subset.refl _) (fun x member => Or.inl (responses ▸ member))
  rw [append_newcomer_none] at next
  exact next prompt

theorem leave (h : b.Spacious room came none) : b.leave.Spacious room came (some b.now) := by
  have next : b.leave.Spacious room (came ++ newcomer b.now none) (some b.now) := by
    refine h.next none rfl rfl (Nat.le_refl _) (fun leaving gone => ?_) (fun leaving gone => ?_)
      (List.Subset.refl _) (fun x member => Or.inl member) fun going => ?_
    · cases gone
    · cases gone
      exact Nat.le_refl _
    · cases going
  rw [append_newcomer_none] at next
  exact next

/-- Whoever still waits when the receiver is given up is turned away then, and what was settled stays so. -/
theorem close (h : b.Spacious room came left) : b.close.Roomy room came left := by
  obtain ⟨kept, fresh⟩ := resumeAll_responses b.leave (b.admitted ++ b.waiting)
  have nobody (prompt : b.Prompt came) : b.close = b.leave := by
    have empty : b.leave.admitted ++ b.leave.waiting = [] := by
      change b.admitted ++ b.waiting = []
      rw [prompt.admitted, prompt.waiting]
      rfl
    rw [Inbox.close, empty]
    rfl
  refine ⟨fun k time d m found carries few early => kept (h.atOnce k time d m found carries few early),
    fun x member status early => ?_, fun going few => ?_⟩
  · rcases fresh x member with old | now
    · exact h.turnedAway x old status early
    · change x.time = b.now at now
      refine Nat.lt_of_not_le fun few => ?_
      have going : left = none := left_eq_none (Nat.le_of_eq now.symm) h.left_le early
      rw [now, filter_of_le h.came_le] at few
      have prompt := h.prompt going few
      rw [nobody prompt] at member
      exact prompt.status x member status
  · have prompt := h.prompt going few
    rw [nobody prompt]
    exact ⟨prompt.waiting, prompt.admitted, prompt.responses_eq⟩

end Spacious

end Inbox

namespace Reception

/-! ### Requests and their times -/

/-- The requests among events, each with the time at which it comes. -/
def posts (now : Nat) : List Event → List (Nat × Delivery)
  | [] => []
  | .inbox (.post d) :: rest => (now, d) :: posts now rest
  | .inbox (.tick time) :: rest => posts (max now time) rest
  | .inbox (.resume _) :: rest | .listen :: rest => posts now rest

theorem posts_cons (r : Reception) (e : Event) (rest : List Event) :
    posts r.inbox.now (e :: rest) =
      Inbox.newcomer r.inbox.now e.delivery? ++ posts (r.step e).inbox.now rest := by
  cases e with
  | listen =>
    rw [step, listen_now]
    rfl
  | inbox e =>
    cases e with
    | post d =>
      have same : (r.step (.inbox (.post d))).inbox.now = r.inbox.now := Inbox.post_now d
      rw [same]
      rfl
    | resume ticket =>
      have same : (r.step (.inbox (.resume ticket))).inbox.now = r.inbox.now := Inbox.resume_now ticket
      rw [same]
      rfl
    | tick time => rfl

theorem posts_append (r : Reception) (first second : List Event) :
    posts r.inbox.now (first ++ second) = posts r.inbox.now first ++ posts (r.run first).inbox.now second := by
  induction first generalizing r with
  | nil => rfl
  | cons e rest ih => rw [List.cons_append, posts_cons, posts_cons, ih, run, List.append_assoc]

theorem posts_requests (now : Nat) (events : List Event) :
    (posts now events).map Prod.snd = events.filterMap Event.delivery? := by
  fun_induction posts now events with
  | case1 => rfl
  | case2 now d rest ih => exact congrArg (d :: ·) ih
  | case3 now time rest ih => exact ih
  | case4 now ticket rest ih => exact ih
  | case5 now rest ih => exact ih

/-- A reception whose inbox owes nothing so far. -/
def Spacious (room : Nat) (came : List (Nat × Delivery)) (r : Reception) : Prop :=
  r.inbox.Spacious room came r.ended

namespace Spacious

theorem step (h : r.Spacious room came) (e : Event) :
    (r.step e).Spacious room (came ++ Inbox.newcomer r.inbox.now e.delivery?) := by
  cases e with
  | inbox e => exact Inbox.Spacious.step h e
  | listen =>
    rw [Event.delivery?, Inbox.append_newcomer_none, Reception.step]
    obtain same | ⟨going, m, b, received, same⟩ | ⟨going, -, -, same⟩ := r.listen_cases
    · rw [same]
      exact h
    · rw [same]
      exact Inbox.Spacious.receive h received
    · rw [same]
      unfold Spacious at h
      rw [going] at h
      exact h.leave

theorem run (h : r.Spacious room came) (events : List Event) :
    (r.run events).Spacious room (came ++ posts r.inbox.now events) := by
  induction events generalizing r came with
  | nil =>
    rw [posts, List.append_nil]
    exact h
  | cons e rest ih =>
    rw [posts_cons, ← List.append_assoc]
    exact ih (h.step e)

theorem leads {r' : Reception} (h : r.Spacious room came) (leads : r.Leads [] r') : r'.Spacious room came := by
  obtain ⟨events, rfl, none⟩ := leads
  have run := h.run events
  rw [List.map_eq_nil_iff.mp ((posts_requests r.inbox.now events).trans none), List.append_nil] at run
  exact run

/-- Time passes until a request comes. -/
theorem arrive {later : Reception} {time : Nat} (h : r.Spacious room came) (passed : r.Leads [] later)
    (now : later.inbox.now = max r.inbox.now time) (d : Delivery) :
    (later.post d).Spacious room (came ++ [(max r.inbox.now time, d)]) ∧
      (later.post d).inbox.now = max r.inbox.now time := by
  refine ⟨?_, (Inbox.post_now d).trans now⟩
  rw [← now]
  exact (h.leads passed).run [.inbox (.post d)]

theorem max_of_sorted {now time : Nat} {rest : List (Nat × Delivery)}
    (after : ∀ later ∈ rest.map Prod.fst, time ≤ later) :
    rest.map (fun x => (max (max now time) x.1, x.2)) = rest.map fun x => (max now x.1, x.2) := by
  refine List.map_congr_left fun x member => ?_
  rw [Nat.max_assoc, Nat.max_eq_right (after x.1 (List.mem_map_of_mem member))]

/-- Requests come while nobody takes a message. -/
theorem served {arrivals : List (Nat × Delivery)} (h : r.Spacious room came)
    (sorted : (arrivals.map Prod.fst).Pairwise (· ≤ ·)) :
    ({ r with inbox := r.inbox.postAll arrivals } : Reception).Spacious room
      (came ++ arrivals.map fun x => (max r.inbox.now x.1, x.2)) := by
  induction arrivals generalizing r came with
  | nil =>
    rw [List.map_nil, List.append_nil]
    exact h
  | cons arrival rest ih =>
    obtain ⟨time, d⟩ := arrival
    obtain ⟨after, ordered⟩ := List.pairwise_cons.mp sorted
    obtain ⟨posted, now⟩ := h.arrive (Leads.advance r (max r.inbox.now time))
      (Inbox.advance_now (Nat.le_max_left ..)) d
    have rest := ih posted ordered
    rw [now, max_of_sorted after, List.append_assoc] at rest
    exact rest

/-- Requests come while the receiver takes what it can. -/
theorem postAll {arrivals : List (Nat × Delivery)} (h : r.Spacious room came)
    (sorted : (arrivals.map Prod.fst).Pairwise (· ≤ ·)) :
    (r.postAll arrivals).Spacious room (came ++ arrivals.map fun x => (max r.inbox.now x.1, x.2)) := by
  induction arrivals generalizing r came with
  | nil =>
    rw [List.map_nil, List.append_nil]
    exact h
  | cons arrival rest ih =>
    obtain ⟨time, d⟩ := arrival
    obtain ⟨after, ordered⟩ := List.pairwise_cons.mp sorted
    obtain ⟨posted, now⟩ := h.arrive (Leads.pass r (max r.inbox.now time)) (pass_now (Nat.le_max_left ..)) d
    have rest := ih posted ordered
    rw [now, max_of_sorted after, List.append_assoc] at rest
    exact rest

end Spacious

end Reception

namespace Trial

variable {σ : Type} {t : Trial} {b : Brokers σ} {source : Entropy} {sent : List Message} {l : Launch σ}

theorem openInbox_spacious (opened : Nat)
    (generated : (Generation.run source t.messageCount t.tuning.messageLength).result = .ok sent) :
    (t.openInbox sent.length opened).Spacious (t.messageCount * t.copies) [] none where
  capacity_eq := t.capacity_openInbox opened generated
  attended_eq := rfl
  left_le leaving gone := by cases gone
  came_le x member := by cases member
  prompt _ _ := ⟨rfl, rfl, rfl, Nat.le_refl _, rfl⟩
  atOnce k time d m found := by cases found
  turnedAway x member := by cases member
  nobodyWaits _ _ := ⟨rfl, rfl, rfl⟩

theorem opening_spacious
    (generated : (Generation.run source t.messageCount t.tuning.messageLength).result = .ok l.sent) :
    (t.opening b l).Spacious (t.messageCount * t.copies)
      (((t.arrivals b l).takeWhile (·.1 < l.time)).map fun x => (max l.opened x.1, x.2)) := by
  have sorted : ((t.arrivals b l).map Prod.fst).Pairwise (· ≤ ·) := b.arrivals_sorted ..
  have early := (List.takeWhile_sublist (l := t.arrivals b l) fun x => x.1 < l.time).map Prod.fst
  let start := Reception.begin (t.openInbox l.sent.length l.opened) t.tuning.receive.quiescenceWindow
  have begun : start.Spacious (t.messageCount * t.copies) [] := openInbox_spacious l.opened generated
  have served := begun.served (sorted.sublist early)
  rw [show start.inbox.now = l.opened from rfl, List.nil_append] at served
  have launched := served.leads (Reception.Leads.advance _ l.time)
  exact launched

theorem reception_spacious (opened : l.opened ≤ l.time)
    (generated : (Generation.run source t.messageCount t.tuning.messageLength).result = .ok l.sent) :
    (t.reception b l).Spacious (t.messageCount * t.copies)
      ((t.arrivals b l).map fun x => (max l.opened x.1, x.2)) := by
  have sorted : ((t.arrivals b l).map Prod.fst).Pairwise (· ≤ ·) := b.arrivals_sorted ..
  have late := (List.dropWhile_sublist (l := t.arrivals b l) fun x => x.1 < l.time).map Prod.fst
  have after := (opening_spacious (b := b) generated).postAll (sorted.sublist late)
  have received := after.leads (Reception.Leads.pass _ (t.limit b l))
  have later : ((t.arrivals b l).dropWhile (·.1 < l.time)).map (fun x => (max l.time x.1, x.2)) =
      ((t.arrivals b l).dropWhile (·.1 < l.time)).map fun x => (max l.opened x.1, x.2) := by
    refine List.map_congr_left fun x member => ?_
    have launched : l.time ≤ x.1 := le_of_mem_dropWhile sorted x.1 (List.mem_map_of_mem member)
    rw [Nat.max_eq_right launched, Nat.max_eq_right (Nat.le_trans opened launched)]
  rw [opening_now opened, later, ← List.map_append, List.takeWhile_append_dropWhile] at received
  exact received

theorem exchange_roomy (opened : l.opened ≤ l.time)
    (generated : (Generation.run source t.messageCount t.tuning.messageLength).result = .ok l.sent) :
    (t.exchange b l).inbox.Roomy (t.messageCount * t.copies)
      ((t.arrivals b l).map fun x => (max l.opened x.1, x.2)) (t.reception b l).ended := by
  have received := reception_spacious (b := b) opened generated
  cases died : (t.sending b l).died with
  | true =>
    rw [exchange_of_died died]
    exact received.close
  | false =>
    cases ended : (t.reception b l).ended with
    | none =>
      rw [exchange_of_endless died ended]
      exact ended ▸ received.close
    | some quiet =>
      rw [exchange_of_ended died ended]
      exact ended ▸ received.toRoomy

end Trial
/-- With the inbox that a run opens, whatever comes in whatever order and whenever messages are taken, nobody who
brings one of the copies that are due is turned away or has to wait; and so it is in every run that is launched. -/
theorem due_copies_admitted_at_once (t : Trial) :
    (∀ (source : Entropy) (sent : List Message) (opened : Nat) (early : List Inbox.Event)
      (events : List Reception.Event),
      (Generation.run source t.messageCount t.tuning.messageLength).result = .ok sent →
      let begun := Reception.begin ((t.openInbox sent.length opened).run early) t.tuning.receive.quiescenceWindow
      let r := begun.run events
      r.inbox.Roomy (t.messageCount * t.copies) (Reception.posts opened (early.map .inbox ++ events)) r.ended) ∧
    ∀ {σ : Type} (b : Brokers σ) (source : Entropy) (bind : String → Except String Address) (s : σ)
      (l : Launch σ), t.setup b source bind s = .ok l →
      ∃ inbox, (t.run b source bind s).inbox = some inbox ∧
        inbox.Roomy (t.messageCount * t.copies) ((t.arrivals b l).map fun x => (max l.opened x.1, x.2))
          (t.reception b l).ended := by
  constructor
  · intro source sent opened early events generated begun r
    let start := Reception.begin (t.openInbox sent.length opened) t.tuning.receive.quiescenceWindow
    have spacious : start.Spacious (t.messageCount * t.copies) [] := Trial.openInbox_spacious opened generated
    have served := spacious.run (early.map .inbox)
    rw [List.nil_append] at served
    have posts := Reception.posts_append start (early.map .inbox) events
    rw [Reception.run_inbox] at served posts
    -- the reception begins with what came before it
    have listening : begun.Spacious _ (Reception.posts opened (early.map .inbox)) := served
    have received := listening.run events
    rw [show start.inbox.now = opened from rfl] at posts
    rw [posts]
    exact received.toRoomy
  · intro σ b source bind s l setup
    obtain ⟨generated, opened⟩ := Trial.setup_ok setup
    refine ⟨(t.exchange b l).inbox, ?_, Trial.exchange_roomy opened generated⟩
    exact congrArg Attempt.inbox (Trial.attempt_of_ok setup)

/-- One message to two receivers, and a collector at which nobody waits. -/
def Trial.broadcastInHaste : Trial where
  analysis := ⟨"a"⟩
  messageCount := 1
  tuning := { messageLength := 1, collector := { handoffTimeout := 0 } }
  mode := .broadcast
  nodes := ["http://a", "http://b", "http://c"]
  sound := rfl

/-- Both copies come before one is taken, and a third one is turned away. -/
theorem due_copies_admitted_at_once_untaken :
    let t := Trial.broadcastInHaste
    let source := Entropy.counting 1 1
    let d : Delivery := { body := (Message.mk "00").json.toUTF8 }
    let noise : Delivery := { body := "a".toUTF8 }
    let events : List Reception.Event :=
      [.inbox (.tick 3), .inbox (.post noise), .inbox (.post d), .inbox (.post d)]
    let begun := Reception.begin ((t.openInbox 1 0).run [.post d]) t.tuning.receive.quiescenceWindow
    let r := begun.run events
    let b := (Rehearsal.ofNodes t.nodes fun _ => {}).brokers fun _ => some "/results"
    let bind (_ : String) : Except String Address := .ok ⟨Address.loopback, 80⟩
    r.inbox.Roomy 2 [(0, d), (3, noise), (3, d), (3, d)] none ∧
    r.inbox.responses.map (fun x => (x.ticket, x.time, x.answer.status)) =
      [(0, 0, 200), (1, 3, 400), (2, 3, 200), (3, 3, 503)] ∧
    ∃ l inbox, t.setup b source bind {} = .ok l ∧ (t.run b source bind {}).inbox = some inbox ∧
      inbox.Roomy 2 ((t.arrivals b l).map fun x => (max l.opened x.1, x.2)) (t.reception b l).ended ∧
      (t.arrivals b l).map Prod.fst = [0, 0] ∧ inbox.responses.map (·.answer.status) = [200, 200] := by
  intro t source d noise events begun r b bind
  have answered : r.inbox.responses.map (fun x => (x.ticket, x.time, x.answer.status)) =
      [(0, 0, 200), (1, 3, 400), (2, 3, 200), (3, 3, 503)] := by
    decide +kernel +revert
  have generated : (Generation.run source t.messageCount t.tuning.messageLength).result = .ok [⟨"00"⟩] := by
    cbv
  have facts : (t.setup b source bind {}).toOption.map (fun l =>
      ((t.arrivals b l).map Prod.fst, (t.exchange b l).inbox.responses.map (·.answer.status))) =
      some ([0, 0], [200, 200]) := by
    cbv
  obtain ⟨always, runs⟩ := due_copies_admitted_at_once t
  refine ⟨always source [⟨"00"⟩] 0 [.post d] events generated, answered, ?_⟩
  cases setup : t.setup b source bind {} with
  | error e =>
    rw [setup] at facts
    cases facts
  | ok l =>
    rw [setup] at facts
    obtain ⟨came, statuses⟩ := Prod.mk.inj (Option.some.inj facts)
    obtain ⟨inbox, opened, roomy⟩ := runs b source bind {} l setup
    refine ⟨l, inbox, rfl, opened, roomy, came, ?_⟩
    have same : (t.run b source bind {}).inbox = some (t.exchange b l).inbox :=
      congrArg Attempt.inbox (Trial.attempt_of_ok setup)
    rw [opened, Option.some.injEq] at same
    rw [same]
    exact statuses

end BrokerTrial
