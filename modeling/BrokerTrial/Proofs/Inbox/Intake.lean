import Mathlib
import BrokerTrial.Inbox.Intake
import BrokerTrial.Proofs.Reception.Quiescence

/-!
# Fair intake

While every delivery uses the room that it is given at once, a delivery waits only for a full queue, and the
deadlines of those that wait stand in the order in which they came. So each event has one plain outcome.
-/

namespace BrokerTrial

variable {b : Inbox} {d : Delivery} {m : Message} {w : Waiting} {waiting : List Waiting}

namespace Delivery

/-- A request that holds a message: it comes to the right place by the right method, and its body is not too
long and can be read. -/
structure Carries (d : Delivery) (m : Message) : Prop where
  path : d.path = resultPath
  method : d.method = "POST"
  size : d.body.size ≤ bodyLimit
  body : Message.ofBytes d.body = .ok m

/-- The answer to a request that holds no message is neither that of success nor that of a full queue. -/
theorem message_cases (d : Delivery) :
    (∃ m, d.Carries m ∧ d.message = .ok m) ∨
    (∀ m, ¬ d.Carries m) ∧ ∃ a, d.message = .error a ∧ a.status ≠ 200 ∧ a.status ≠ 503 := by
  unfold message
  by_cases path : d.path ≠ resultPath
  · rw [if_pos path]
    exact Or.inr ⟨fun m carries => path carries.path, .notFound, rfl, by decide, by decide⟩
  by_cases method : d.method ≠ "POST"
  · rw [if_neg path, if_pos method]
    exact Or.inr ⟨fun m carries => method carries.method, .methodNotAllowed, rfl, by decide, by decide⟩
  by_cases size : bodyLimit < d.body.size
  · rw [if_neg path, if_neg method, if_pos size]
    exact Or.inr ⟨fun m carries => absurd carries.size (Nat.not_le.mpr size), .tooLarge, rfl, by decide,
      by decide⟩
  rw [if_neg path, if_neg method, if_neg size]
  cases body : Message.ofBytes d.body with
  | ok m => exact Or.inl ⟨m, ⟨not_not.mp path, not_not.mp method, Nat.not_lt.mp size, body⟩, rfl⟩
  | error p =>
    refine Or.inr ⟨fun m carries => ?_, .malformed, rfl, by decide, by decide⟩
    rw [carries.body] at body
    cases body

theorem message_of_unread (path : d.path = resultPath) (method : d.method = "POST")
    (size : d.body.size ≤ bodyLimit) (unread : ∀ m, Message.ofBytes d.body ≠ .ok m) :
    d.message = .error .malformed := by
  unfold message
  rw [if_neg (not_not_intro path), if_neg (not_not_intro method), if_neg (Nat.not_lt.mpr size)]
  cases body : Message.ofBytes d.body with
  | ok m => exact absurd body (unread m)
  | error p => rfl

theorem message_eq_ok_iff : d.message = .ok m ↔ d.Carries m := by
  constructor
  · intro holds
    obtain ⟨m', carries, same⟩ | ⟨-, a, same, -⟩ := d.message_cases
    · rw [same] at holds
      cases holds
      exact carries
    · rw [same] at holds
      cases holds
  · intro carries
    exact message_ok carries.path carries.method carries.size carries.body

end Delivery

namespace Inbox

/-! ### What one event does -/

theorem post_of_error {a : Answer} (holds : d.message = .error a) :
    b.post d =
      { b with arrived := b.arrived + 1, responses := b.responses ++ [⟨b.arrived, b.now, a⟩] } := by
  simp only [post, holds, respond]

/-- What becomes of a message: there is no receiver, or there is room, or it has no patience, or it waits. -/
theorem post_of_ok (holds : d.message = .ok m) (used : b.admitted = []) :
    b.post d =
      if b.attended = false ∨ b.capacity ≤ b.queue.length ∧ b.patience = 0 then
        { b with arrived := b.arrived + 1, responses := b.responses ++ [⟨b.arrived, b.now, .unavailable⟩] }
      else if b.queue.length < b.capacity then
        { b with
          arrived := b.arrived + 1, queue := b.queue ++ [m]
          responses := b.responses ++ [⟨b.arrived, b.now, .accepted m⟩] }
      else
        { b with
          arrived := b.arrived + 1, waiting := b.waiting ++ [⟨b.arrived, m, b.now + b.patience⟩] } := by
  simp only [post, holds, offer, respond, used, List.length_nil, Nat.add_zero]
  cases attended : b.attended with
  | false => simp
  | true =>
    by_cases room : b.queue.length < b.capacity
    · simp [room, Nat.not_le.mpr room]
    · by_cases patience : b.patience = 0
      · simp [room, Nat.not_lt.mp room, patience]
      · simp [room, patience]

/-- A message for which there is room is queued at once, whoever else has been given room. -/
theorem post_of_room (holds : d.message = .ok m) (attended : b.attended = true)
    (room : b.queue.length + b.admitted.length < b.capacity) :
    b.post d =
      { b with
        arrived := b.arrived + 1, queue := b.queue ++ [m]
        responses := b.responses ++ [⟨b.arrived, b.now, .accepted m⟩] } := by
  simp [post, holds, offer, respond, attended, room]

/-- The first message of the queue is taken, and the delivery that waits longest gets its room. -/
theorem take_of_used (used : b.admitted = [])
    (ready : b.waiting ≠ [] → b.attended = true ∧ b.queue ≠ []) :
    b.take =
      (b.queue.head?,
        { b with
          queue := b.queue.tail ++ (b.waiting.head?.map Waiting.message).toList
          waiting := b.waiting.tail
          responses := b.responses ++
            (b.waiting.head?.map fun w => ⟨w.ticket, b.now, .accepted w.message⟩).toList }) := by
  cases filled : b.queue with
  | nil =>
    have none : b.waiting = [] := by
      by_contra some
      exact (ready some).2 filled
    have same : b = { b with queue := [], waiting := [] } := by rw [← none, ← filled]
    simpa [take, receive, filled, none] using same
  | cons m queue =>
    cases waits : b.waiting with
    | nil => simp [take, receive, filled, waits, proceed, resumeAll, used]
    | cons w rest =>
      have attended := (ready (by simp [waits])).1
      simp [take, receive, filled, waits, proceed, resumeAll, resume, respond, used, attended]

/-- Who waits first in line and may not wait any longer is turned away. -/
theorem resume_of_first (used : b.admitted = []) (waits : b.waiting = w :: waiting)
    (past : ¬(b.attended = true ∧ b.now < w.deadline)) :
    b.resume w.ticket =
      { b with waiting, responses := b.responses ++ [⟨w.ticket, b.now, .unavailable⟩] } := by
  simp [resume, used, waits, past, respond]

theorem resumeAll_of_left (left : b.attended = false) (used : b.admitted = [])
    (waits : b.waiting = waiting) :
    b.resumeAll waiting =
      { b with
        waiting := []
        responses := b.responses ++ waiting.map fun w => ⟨w.ticket, b.now, .unavailable⟩ } := by
  induction waiting generalizing b with
  | nil =>
    have same : b = { b with waiting := [] } := by rw [← waits]
    rw [List.map_nil, List.append_nil]
    exact same
  | cons w rest ih =>
    rw [resumeAll, List.foldl_cons, resume_of_first used waits (by simp [left])]
    refine (ih (b := { b with waiting := rest, responses := _ }) left used rfl).trans ?_
    simp

theorem close_of_used (used : b.admitted = []) :
    b.close =
      { b with
        attended := false, queue := [], waiting := []
        responses := b.responses ++ b.waiting.map fun w => ⟨w.ticket, b.now, .unavailable⟩ } := by
  have none : b.leave.admitted = [] := used
  rw [close, none, List.nil_append, resumeAll_of_left rfl none rfl]
  rfl

/-- Those whose deadlines come first are turned away at them, one after the other. -/
theorem expire {late early : List Waiting} {time : Nat} (used : b.admitted = [])
    (waits : b.waiting = late ++ early) (ordered : (b.now :: late.map Waiting.deadline).Pairwise (· ≤ ·))
    (past : ∀ w ∈ late, w.deadline ≤ time) (now_le : b.now ≤ time) :
    (late.foldl (fun b w => (b.tick w.deadline).resume w.ticket) b).tick time =
      { b with
        now := time, waiting := early
        responses := b.responses ++ late.map fun w => ⟨w.ticket, w.deadline, .unavailable⟩ } := by
  induction late generalizing b with
  | nil =>
    rw [List.nil_append] at waits
    rw [List.foldl_nil, tick, Nat.max_eq_right now_le, List.map_nil, List.append_nil, ← waits]
  | cons w rest ih =>
    obtain ⟨before, ordered⟩ := List.pairwise_cons.mp ordered
    have now_eq : (b.tick w.deadline).now = w.deadline := Nat.max_eq_right (before _ (by simp))
    have first : (b.tick w.deadline).resume w.ticket =
        { b.tick w.deadline with
          waiting := rest ++ early
          responses := b.responses ++ [⟨w.ticket, (b.tick w.deadline).now, .unavailable⟩] } :=
      resume_of_first used waits (by simp [now_eq])
    rw [List.foldl_cons, first, now_eq]
    refine (ih (b := { b.tick w.deadline with waiting := rest ++ early, responses := _ }) used rfl ?_
      (fun x member => past x (List.mem_cons_of_mem _ member)) ?_).trans ?_
    · change ((b.tick w.deadline).now :: _).Pairwise _
      rw [now_eq]
      exact ordered
    · change (b.tick w.deadline).now ≤ time
      rw [now_eq]
      exact past w List.mem_cons_self
    · simp [tick]

/-- Time divides those that wait into some who came first, and whose deadline is past, and the others. -/
theorem advance_of_used {time : Nat} (used : b.admitted = [])
    (ordered : (b.now :: b.waiting.map Waiting.deadline).Pairwise (· ≤ ·)) (now_le : b.now ≤ time) :
    ∃ late early, b.waiting = late ++ early ∧ (∀ w ∈ late, w.deadline ≤ time) ∧
      (∀ w ∈ early, time < w.deadline) ∧
      b.advance time =
        { b with
          now := time, waiting := early
          responses := b.responses ++ late.map fun w => ⟨w.ticket, w.deadline, .unavailable⟩ } := by
  have split (ws : List Waiting) (ordered : (ws.map Waiting.deadline).Pairwise (· ≤ ·)) :
      ∃ late early, ws = late ++ early ∧ ws.filter (·.deadline ≤ time) = late ∧
        (∀ w ∈ early, time < w.deadline) := by
    induction ws with
    | nil => exact ⟨[], [], rfl, rfl, by simp⟩
    | cons w rest ih =>
      obtain ⟨before, ordered⟩ := List.pairwise_cons.mp ordered
      by_cases past : w.deadline ≤ time
      · obtain ⟨late, early, same, filtered, later⟩ := ih ordered
        exact ⟨w :: late, early, by rw [same]; rfl, by simp [past, filtered], later⟩
      · have later : ∀ x ∈ w :: rest, time < x.deadline := by
          intro x member
          rcases List.mem_cons.mp member with rfl | behind
          · omega
          · have := before x.deadline (List.mem_map_of_mem behind)
            omega
        refine ⟨[], w :: rest, rfl, List.filter_eq_nil_iff.mpr fun x member => ?_, later⟩
        simpa using later x member
  obtain ⟨late, early, waits, filtered, later⟩ := split b.waiting (List.pairwise_cons.mp ordered).2
  have past : ∀ w ∈ late, w.deadline ≤ time := by
    intro w member
    rw [← filtered] at member
    simpa using (List.mem_filter.mp member).2
  refine ⟨late, early, waits, past, later, ?_⟩
  rw [advance, filtered]
  refine expire used waits (ordered.sublist ?_) past now_le
  rw [waits, List.map_append]
  exact (List.sublist_append_left ..).cons_cons _

end Inbox

namespace Intake

variable {h : Intake} {capacity patience : Nat} {left : Option Nat} {time ticket : Nat}

/-! ### Answers in time -/

/-- When a message that came at a time gives up: when its patience ends or the receiver leaves, whichever is
first, and at once if there is no receiver any more. -/
def givesUp (patience : Nat) (left : Option Nat) (time : Nat) : Nat :=
  match left with
  | none => time + patience
  | some leaving => max time (min (time + patience) leaving)

/-- An answer that is right for a request that came at a time. -/
inductive Right (patience : Nat) (left : Option Nat) (time : Nat) (d : Delivery) : Response → Prop where
  | admitted (ticket at_ : Nat) (m : Message) (carries : d.Carries m) (later : time ≤ at_)
      (patient : at_ = time ∨ at_ < time + patience) (attended : ∀ leaving ∈ left, at_ ≤ leaving) :
      Right patience left time d ⟨ticket, at_, .accepted m⟩
  | turnedAway (ticket at_ : Nat) (m : Message) (carries : d.Carries m)
      (due : at_ = givesUp patience left time) : Right patience left time d ⟨ticket, at_, .unavailable⟩
  | refused (ticket : Nat) (a : Answer) (fails : d.message = .error a) :
      Right patience left time d ⟨ticket, time, a⟩

theorem givesUp_of_left {leaving : Nat} (before : leaving ≤ time) :
    givesUp patience (some leaving) time = time := by
  simp only [givesUp]
  omega

/-- What was right before the receiver leaves is right afterwards. -/
theorem Right.close {x : Response} {now : Nat} (right : Right patience left time d x) (early : x.time ≤ now)
    (going : left = none) : Right patience (some now) time d x := by
  cases right with
  | admitted ticket at_ m carries later patient attended =>
    refine .admitted ticket at_ m carries later patient fun leaving same => ?_
    cases same
    exact early
  | turnedAway ticket at_ m carries due =>
    refine .turnedAway ticket at_ m carries ?_
    subst going
    simp only [givesUp] at due ⊢
    change at_ ≤ now at early
    omega
  | refused ticket a fails => exact .refused ticket a fails

/-! ### What every event keeps -/

/-- Whoever may go on has gone on; who waits does so in good order for a full queue, and who was answered was
answered rightly. -/
structure Sound (capacity patience : Nat) (h : Intake) : Prop where
  room : 0 < capacity
  consistent : h.inbox.Consistent (h.arrivals.map Prod.snd)
  capacity_eq : h.inbox.capacity = capacity
  patience_eq : h.inbox.patience = patience
  attended_eq : h.inbox.attended = h.left.isNone
  used : h.inbox.admitted = []
  bounded : h.inbox.queue.length ≤ capacity
  full : h.inbox.waiting ≠ [] → h.left = none ∧ h.inbox.queue.length = capacity
  ascending : h.inbox.line.Pairwise (· < ·)
  ordered : (h.inbox.waiting.map Waiting.deadline).Pairwise (· ≤ ·)
  due : ∀ w ∈ h.inbox.waiting, (h.inbox.now < w.deadline ∧ w.deadline ≤ h.inbox.now + patience) ∧
    ∃ time d, h.arrivals[w.ticket]? = some (time, d) ∧ d.Carries w.message ∧ w.deadline = time + patience
  kept : h.left = none → h.taken ++ h.inbox.queue = h.inbox.admissions.map Prod.snd
  lost : h.left ≠ none → h.inbox.queue = [] ∧ h.taken <+: h.inbox.admissions.map Prod.snd
  right : ∀ x ∈ h.inbox.responses, x.time ≤ h.inbox.now ∧
    ∃ time d, h.arrivals[x.ticket]? = some (time, d) ∧ Right patience h.left time d x
  left_le : ∀ leaving ∈ h.left, leaving ≤ h.inbox.now

theorem arrival_concat {arrivals : List (Nat × Delivery)} {arrival : Nat × Delivery} {k : Nat}
    (found : arrivals[k]? = some arrival) (more : List (Nat × Delivery)) :
    (arrivals ++ more)[k]? = some arrival := by
  obtain ⟨bound, -⟩ := List.getElem?_eq_some_iff.mp found
  rw [List.getElem?_append_left bound, found]

namespace Sound

theorem start (room : 0 < capacity) (now : Nat) :
    Sound capacity patience { inbox := { capacity, patience, now } } where
  room := room
  consistent := ⟨rfl, List.Perm.refl _, by simp, by simp⟩
  capacity_eq := rfl
  patience_eq := rfl
  attended_eq := rfl
  used := rfl
  bounded := Nat.zero_le _
  full waits := absurd rfl waits
  ascending := by simp [Inbox.line, Inbox.acknowledged]
  ordered := by simp
  due := by simp
  kept _ := rfl
  lost _ := ⟨rfl, List.nil_prefix⟩
  right := by simp
  left_le := by simp

theorem arrived_eq (s : Sound capacity patience h) : h.inbox.arrived = h.arrivals.length := by
  rw [s.consistent.arrived_eq, List.length_map]

theorem last_arrival (s : Sound capacity patience h) (d : Delivery) :
    (h.arrivals ++ [(h.inbox.now, d)])[h.inbox.arrived]? = some (h.inbox.now, d) := by
  rw [s.arrived_eq, List.getElem?_concat_length]

theorem due_concat (s : Sound capacity patience h) (more : List (Nat × Delivery)) :
    ∀ w ∈ h.inbox.waiting, (h.inbox.now < w.deadline ∧ w.deadline ≤ h.inbox.now + patience) ∧
      ∃ time d, (h.arrivals ++ more)[w.ticket]? = some (time, d) ∧ d.Carries w.message ∧
        w.deadline = time + patience := by
  intro w member
  obtain ⟨soon, time, d, found, holds⟩ := s.due w member
  exact ⟨soon, time, d, arrival_concat found more, holds⟩

theorem right_concat (s : Sound capacity patience h) {more : List (Nat × Delivery)} {new : List Response}
    (right : ∀ x ∈ new, x.time ≤ h.inbox.now ∧
      ∃ time d, (h.arrivals ++ more)[x.ticket]? = some (time, d) ∧ Right patience h.left time d x) :
    ∀ x ∈ h.inbox.responses ++ new, x.time ≤ h.inbox.now ∧
      ∃ time d, (h.arrivals ++ more)[x.ticket]? = some (time, d) ∧ Right patience h.left time d x := by
  intro x member
  rcases List.mem_append.mp member with old | fresh
  · obtain ⟨early, time, d, found, right⟩ := s.right x old
    exact ⟨early, time, d, arrival_concat found more, right⟩
  · exact right x fresh

theorem line_concat (s : Sound capacity patience h) :
    (h.inbox.line ++ [h.inbox.arrived + 1]).Pairwise (· < ·) :=
  Inbox.pairwise_concat_succ s.ascending

/-! ### A request comes -/

theorem consistent_post (s : Sound capacity patience h) (d : Delivery) :
    (h.inbox.post d).Consistent ((h.arrivals ++ [(h.inbox.now, d)]).map Prod.snd) := by
  rw [List.map_append]
  exact s.consistent.step Inbox.post_change

theorem post_refused (s : Sound capacity patience h) {a : Answer} (failed : a.message? = none)
    (right : Right patience h.left h.inbox.now d ⟨h.inbox.arrived, h.inbox.now, a⟩)
    (same : h.inbox.post d =
      { h.inbox with
        arrived := h.inbox.arrived + 1
        responses := h.inbox.responses ++ [⟨h.inbox.arrived, h.inbox.now, a⟩] }) :
    Sound capacity patience (h.step (.post d)) := by
  have consistent := s.consistent_post d
  have admissions : ({ h.inbox with
      arrived := h.inbox.arrived + 1
      responses := h.inbox.responses ++ [⟨h.inbox.arrived, h.inbox.now, a⟩] } : Inbox).admissions =
        h.inbox.admissions := by simp [Inbox.admissions, failed]
  have line := s.line_concat
  simp only [step, same] at consistent ⊢
  refine ⟨s.room, consistent, s.capacity_eq, s.patience_eq, s.attended_eq, s.used, s.bounded, s.full, ?_,
    s.ordered, s.due_concat _, ?_, ?_, s.right_concat ?_, s.left_le⟩
  · have status : ¬ a.status = 200 := by rw [Answer.status_eq_ok_iff, failed]; simp
    refine line.sublist ?_
    simp [Inbox.line, Inbox.acknowledged, status]
  · rw [admissions]
    exact s.kept
  · rw [admissions]
    exact s.lost
  · intro x member
    rw [List.mem_singleton.mp member]
    exact ⟨Nat.le_refl _, h.inbox.now, d, s.last_arrival d, right⟩

/-- With room in the queue nobody waits, so a message that finds room is admitted in its turn. -/
theorem post_queued (s : Sound capacity patience h) (carries : d.Carries m) (going : h.left = none)
    (room : h.inbox.queue.length < capacity)
    (same : h.inbox.post d =
      { h.inbox with
        arrived := h.inbox.arrived + 1
        queue := h.inbox.queue ++ [m]
        responses := h.inbox.responses ++ [⟨h.inbox.arrived, h.inbox.now, .accepted m⟩] }) :
    Sound capacity patience (h.step (.post d)) := by
  have consistent := s.consistent_post d
  have none : h.inbox.waiting = [] := by
    by_contra some
    have full := (s.full some).2
    omega
  have line := s.line_concat
  have kept := s.kept going
  simp only [step, same] at consistent ⊢
  refine ⟨s.room, consistent, s.capacity_eq, s.patience_eq, s.attended_eq, s.used, ?_,
    fun some => absurd none some, ?_, s.ordered, s.due_concat _, fun _ => ?_, ?_, s.right_concat ?_, s.left_le⟩
  · rw [List.length_append, List.length_singleton]
    exact room
  · simpa [Inbox.line, Inbox.acknowledged, Answer.status, none] using line
  · simpa [Inbox.admissions, Answer.message?] using congrArg (· ++ [m]) kept
  · exact absurd going
  · intro x member
    rw [List.mem_singleton.mp member]
    refine ⟨Nat.le_refl _, h.inbox.now, d, s.last_arrival d, ?_⟩
    refine .admitted h.inbox.arrived h.inbox.now m carries (Nat.le_refl _) (Or.inl rfl) fun leaving here => ?_
    rw [going] at here
    cases here

theorem post_waits (s : Sound capacity patience h) (carries : d.Carries m) (going : h.left = none)
    (full : h.inbox.queue.length = capacity) (patient : 0 < patience)
    (same : h.inbox.post d =
      { h.inbox with
        arrived := h.inbox.arrived + 1
        waiting := h.inbox.waiting ++ [⟨h.inbox.arrived, m, h.inbox.now + h.inbox.patience⟩] }) :
    Sound capacity patience (h.step (.post d)) := by
  have consistent := s.consistent_post d
  have line := s.line_concat
  rw [s.patience_eq] at same
  simp only [step, same] at consistent ⊢
  refine ⟨s.room, consistent, s.capacity_eq, s.patience_eq, s.attended_eq, s.used, s.bounded,
    fun _ => ⟨going, full⟩, ?_, ?_, ?_, s.kept, s.lost, ?_, s.left_le⟩
  · simpa [Inbox.line, Inbox.acknowledged] using line
  · rw [List.map_append]
    refine List.pairwise_append.mpr ⟨s.ordered, List.pairwise_singleton .., fun x before y last => ?_⟩
    obtain ⟨w, member, rfl⟩ := List.mem_map.mp before
    rw [List.mem_singleton.mp last]
    exact (s.due w member).1.2
  · intro w member
    rcases List.mem_append.mp member with before | here
    · exact s.due_concat _ w before
    · rw [List.mem_singleton.mp here]
      exact ⟨⟨Nat.lt_add_of_pos_right patient, Nat.le_refl _⟩, h.inbox.now, d, s.last_arrival d, carries, rfl⟩
  · intro x member
    obtain ⟨early, time, d, found, right⟩ := s.right x member
    exact ⟨early, time, d, arrival_concat found _, right⟩

theorem post (s : Sound capacity patience h) (d : Delivery) : Sound capacity patience (h.step (.post d)) := by
  obtain ⟨m, carries, holds⟩ | ⟨-, a, fails, -, other⟩ := d.message_cases
  · have same := Inbox.post_of_ok holds s.used
    split at same
    · rename_i reason
      refine s.post_refused rfl (.turnedAway _ _ m carries ?_) same
      rw [s.attended_eq, s.capacity_eq, s.patience_eq] at reason
      cases going : h.left with
      | none =>
        rw [going] at reason
        obtain left | ⟨-, rfl⟩ := reason
        · cases left
        · rfl
      | some leaving => exact (givesUp_of_left (s.left_le leaving going)).symm
    · rename_i live
      rw [s.attended_eq, s.capacity_eq, s.patience_eq, not_or, not_and] at live
      have going : h.left = none := by simpa using live.1
      split at same
      · rename_i room
        rw [s.capacity_eq] at room
        exact s.post_queued carries going room same
      · rename_i full
        rw [s.capacity_eq, Nat.not_lt] at full
        exact s.post_waits carries going (Nat.le_antisymm s.bounded full)
          (Nat.pos_of_ne_zero (live.2 full)) same
  · exact s.post_refused (Delivery.message_error fails) (.refused _ a fails) (Inbox.post_of_error fails)

/-! ### Time passes -/

theorem ahead (s : Sound capacity patience h) :
    (h.inbox.now :: h.inbox.waiting.map Waiting.deadline).Pairwise (· ≤ ·) := by
  refine List.pairwise_cons.mpr ⟨fun deadline member => ?_, s.ordered⟩
  obtain ⟨w, here, rfl⟩ := List.mem_map.mp member
  exact Nat.le_of_lt (s.due w here).1.1

theorem pass (s : Sound capacity patience h) (time : Nat) :
    Sound capacity patience (h.step (.pass time)) := by
  have now_le : h.inbox.now ≤ h.inbox.now + time := Nat.le_add_right ..
  obtain ⟨late, early, waits, past, later, same⟩ := Inbox.advance_of_used s.used s.ahead now_le
  have consistent : (h.inbox.advance (h.inbox.now + time)).Consistent (h.arrivals.map Prod.snd) := by
    obtain ⟨events, leads, none⟩ := Inbox.Leads.advance h.inbox (h.inbox.now + time)
    have run := s.consistent.run events
    rwa [leads, none, List.append_nil] at run
  have line := s.ascending
  have ordered := s.ordered
  have due := s.due
  have full := s.full
  simp only [Inbox.line, waits, List.map_append] at line ordered due full
  simp only [step, same] at consistent ⊢
  refine ⟨s.room, consistent, s.capacity_eq, s.patience_eq, s.attended_eq, s.used, s.bounded, fun some => ?_,
    ?_, (List.pairwise_append.mp ordered).2.1, fun w member => ?_, ?_, ?_, fun x member => ?_,
    fun leaving here => Nat.le_trans (s.left_le leaving here) now_le⟩
  · exact full (List.append_ne_nil_of_right_ne_nil late some)
  · refine line.sublist ?_
    simp [Inbox.line, Inbox.acknowledged, Answer.status]
  · obtain ⟨⟨-, soon⟩, found⟩ := due w (List.mem_append_right late member)
    exact ⟨⟨later w member, by dsimp only; omega⟩, found⟩
  · simpa [Inbox.admissions, Answer.message?] using s.kept
  · simpa [Inbox.admissions, Answer.message?] using s.lost
  · rcases List.mem_append.mp member with old | fresh
    · obtain ⟨before, found⟩ := s.right x old
      exact ⟨Nat.le_trans before now_le, found⟩
    · obtain ⟨w, here, rfl⟩ := List.mem_map.mp fresh
      obtain ⟨-, arrived, d, found, carries, deadline⟩ := due w (List.mem_append_left early here)
      have some : late ++ early ≠ [] := List.append_ne_nil_of_left_ne_nil (List.ne_nil_of_mem here) early
      refine ⟨past w here, arrived, d, found, .turnedAway w.ticket w.deadline w.message carries ?_⟩
      rw [(full some).1, deadline]
      rfl

/-! ### The receiver -/

theorem consistent_take (s : Sound capacity patience h) :
    h.inbox.take.2.Consistent (h.arrivals.map Prod.snd) := by
  unfold Inbox.take
  cases received : h.inbox.receive with
  | none => exact s.consistent
  | some both =>
    obtain ⟨m, b⟩ := both
    obtain ⟨events, leads, none⟩ := Inbox.Leads.resumeAll b b.admitted
    have run := (s.consistent.receive received).run events
    rwa [leads, none, List.append_nil] at run

/-- Who waits does so for the receiver, and there is a message that it can take. -/
theorem ready (s : Sound capacity patience h) (some : h.inbox.waiting ≠ []) :
    h.inbox.attended = true ∧ h.inbox.queue ≠ [] := by
  obtain ⟨going, full⟩ := s.full some
  refine ⟨by rw [s.attended_eq, going]; rfl, fun empty => ?_⟩
  rw [empty, List.length_nil] at full
  exact absurd s.room (by omega)

theorem take_eq (s : Sound capacity patience h) :
    h.step .take =
      { h with
        taken := h.taken ++ h.inbox.queue.head?.toList
        inbox := { h.inbox with
          queue := h.inbox.queue.tail ++ (h.inbox.waiting.head?.map Waiting.message).toList
          waiting := h.inbox.waiting.tail
          responses := h.inbox.responses ++
            (h.inbox.waiting.head?.map fun w => ⟨w.ticket, h.inbox.now, .accepted w.message⟩).toList } } := by
  simp only [step, Inbox.take_of_used s.used s.ready]

theorem take_unawaited (s : Sound capacity patience h) (none : h.inbox.waiting = []) :
    Sound capacity patience (h.step .take) := by
  have consistent : (h.step .take).inbox.Consistent (h.arrivals.map Prod.snd) := s.consistent_take
  have line := s.ascending
  have kept := s.kept
  have lost := s.lost
  simp only [Inbox.line, none] at line
  simp only [s.take_eq, none, List.head?_nil, Option.map_none, Option.toList_none, List.append_nil,
    List.tail_nil] at consistent ⊢
  refine ⟨s.room, consistent, s.capacity_eq, s.patience_eq, s.attended_eq, s.used, ?_,
    fun some => absurd rfl some, line, List.Pairwise.nil, fun w member => absurd member List.not_mem_nil,
    fun going => ?_, fun gone => ?_, s.right, s.left_le⟩
  · exact Nat.le_trans (List.length_tail ▸ Nat.sub_le ..) s.bounded
  · refine Eq.trans ?_ (kept going)
    rw [List.append_assoc]
    cases h.inbox.queue <;> rfl
  · obtain ⟨empty, taken⟩ := lost gone
    simp only [empty, List.tail_nil, List.head?_nil, Option.toList_none, List.append_nil]
    exact ⟨trivial, taken⟩

/-- Whoever waits longest gets the room of the message that is taken, and is admitted. -/
theorem take_awaited (s : Sound capacity patience h) (waits : h.inbox.waiting = w :: waiting) :
    Sound capacity patience (h.step .take) := by
  have some : h.inbox.waiting ≠ [] := by simp [waits]
  obtain ⟨going, full⟩ := s.full some
  obtain ⟨m, queue, filled⟩ := List.exists_cons_of_ne_nil (s.ready some).2
  have consistent : (h.step .take).inbox.Consistent (h.arrivals.map Prod.snd) := s.consistent_take
  have line := s.ascending
  have ordered := s.ordered
  have due := s.due
  have moved : h.taken ++ [m] ++ (queue ++ [w.message]) =
      (h.inbox.admissions ++ [(h.inbox.now, w.message)]).map Prod.snd := by
    rw [List.map_append, ← s.kept going, filled]
    simp
  simp only [Inbox.line, waits] at line ordered due
  simp only [filled, List.length_cons] at full
  simp only [s.take_eq, waits, filled, List.head?_cons, Option.map_some, Option.toList_some, List.tail_cons]
    at consistent ⊢
  refine ⟨s.room, consistent, s.capacity_eq, s.patience_eq, s.attended_eq, s.used, ?_, fun _ => ⟨going, ?_⟩,
    ?_, (List.pairwise_cons.mp ordered).2, fun x member => due x (List.mem_cons_of_mem w member), fun _ => ?_,
    absurd going, fun x member => ?_, s.left_le⟩
  · simpa using Nat.le_of_eq full
  · simpa using full
  · simpa [Inbox.line, Inbox.acknowledged, Answer.status] using line
  · simpa [Inbox.admissions, Answer.message?] using moved
  · rcases List.mem_append.mp member with old | fresh
    · exact s.right x old
    · rw [List.mem_singleton.mp fresh]
      obtain ⟨⟨early, late⟩, time, d, found, carries, deadline⟩ := due w List.mem_cons_self
      have later : time ≤ h.inbox.now := by omega
      have patient : h.inbox.now < time + patience := by omega
      refine ⟨Nat.le_refl _, time, d, found, ?_⟩
      refine .admitted w.ticket h.inbox.now w.message carries later (Or.inr patient) fun leaving here => ?_
      rw [going] at here
      cases here

theorem take (s : Sound capacity patience h) : Sound capacity patience (h.step .take) := by
  cases waits : h.inbox.waiting with
  | nil => exact s.take_unawaited waits
  | cons w waiting => exact s.take_awaited waits

theorem consistent_close (s : Sound capacity patience h) :
    h.inbox.close.Consistent (h.arrivals.map Prod.snd) := by
  obtain ⟨events, leads, none⟩ :=
    Inbox.Leads.resumeAll h.inbox.leave (h.inbox.leave.admitted ++ h.inbox.leave.waiting)
  have run := s.consistent.leave.run events
  rwa [leads, none, List.append_nil] at run

theorem close (s : Sound capacity patience h) : Sound capacity patience (h.step .close) := by
  have same := Inbox.close_of_used s.used
  have consistent := s.consistent_close
  have line := s.ascending
  simp only [Inbox.line] at line
  simp only [step, same] at consistent ⊢
  refine ⟨s.room, consistent, s.capacity_eq, s.patience_eq, ?_, s.used, Nat.zero_le _,
    fun some => absurd rfl some, ?_, List.Pairwise.nil, fun w member => absurd member List.not_mem_nil,
    fun going => ?_, fun _ => ⟨rfl, ?_⟩, fun x member => ?_, fun leaving here => ?_⟩
  · cases h.left <;> rfl
  · refine line.sublist ?_
    simp [Inbox.line, Inbox.acknowledged, Answer.status]
  · cases left : h.left <;> simp [left] at going
  · have before : h.taken <+: h.inbox.admissions.map Prod.snd := by
      cases left : h.left with
      | none => exact s.kept left ▸ List.prefix_append ..
      | some leaving => exact (s.lost (by simp [left])).2
    simpa [Inbox.admissions, Answer.message?] using before
  · rcases List.mem_append.mp member with old | fresh
    · obtain ⟨early, time, d, found, right⟩ := s.right x old
      refine ⟨early, time, d, found, ?_⟩
      cases left : h.left with
      | none => exact right.close early left
      | some leaving =>
        rw [left] at right
        exact right
    · obtain ⟨w, here, rfl⟩ := List.mem_map.mp fresh
      obtain ⟨⟨soon, late⟩, time, d, found, carries, deadline⟩ := s.due w here
      have going := (s.full (List.ne_nil_of_mem here)).1
      refine ⟨Nat.le_refl _, time, d, found, .turnedAway w.ticket h.inbox.now w.message carries ?_⟩
      simp only [going, Option.none_or, givesUp]
      omega
  · cases left : h.left with
    | none =>
      rw [left] at here
      cases here
      exact Nat.le_refl _
    | some before =>
      rw [left] at here
      cases here
      exact s.left_le leaving left

theorem step (s : Sound capacity patience h) (e : Event) : Sound capacity patience (h.step e) := by
  cases e with
  | post d => exact s.post d
  | pass time => exact s.pass time
  | take => exact s.take
  | close => exact s.close

theorem run (s : Sound capacity patience h) (events : List Event) : Sound capacity patience (h.run events) := by
  induction events generalizing h with
  | nil => exact s
  | cons e rest ih => exact ih (s.step e)

end Sound

theorem run_arrivals (h : Intake) (events : List Event) :
    (h.run events).arrivals.map Prod.snd = h.arrivals.map Prod.snd ++ events.filterMap Event.delivery? := by
  induction events generalizing h with
  | nil => simp [run]
  | cons e rest ih =>
    rw [run, ih]
    cases e <;> simp [step, Event.delivery?, List.filterMap_cons]

/-! ### Fairness -/

/-- The messages of the requests that were answered with success, in the order of the answers. -/
def accepted (h : Intake) : List (Option Message) :=
  h.inbox.acknowledged.map fun x => (h.arrivals.map Prod.snd)[x.ticket]?.bind (·.message.toOption)

/-- What becomes of a message that came at a time: it waits, and nothing else would be right yet; or it has one
answer, of success not before it came nor after it gives up, or else of failure when it gives up. -/
inductive Settled (patience : Nat) (h : Intake) (k time : Nat) (m : Message) : Prop where
  | waits (w : Waiting) (here : w ∈ h.inbox.waiting) (same : w.ticket = k ∧ w.message = m)
      (unanswered : k ∉ h.inbox.responses.map Response.ticket) (attended : h.left = none)
      (patient : h.inbox.now < time + patience)
  | admitted (x : Response) (here : x ∈ h.inbox.responses) (same : x.ticket = k ∧ x.answer = .accepted m)
      (later : time ≤ x.time) (patient : x.time = time ∨ x.time < time + patience)
      (attended : ∀ leaving ∈ h.left, x.time ≤ leaving)
  | turnedAway (x : Response) (here : x ∈ h.inbox.responses) (same : x.ticket = k ∧ x.answer.status = 503)
      (due : x.time = givesUp patience h.left time)

/-- Messages go in and out in turn. -/
structure Fair (capacity patience : Nat) (h : Intake) : Prop where
  bounded : h.inbox.queue.length ≤ capacity
  waits : h.inbox.waiting ≠ [] → h.left = none ∧ h.inbox.queue.length = capacity
  /-- Those taken are the first that were admitted, and the others are queued while there is a receiver. -/
  taken : h.taken.map some <+: h.accepted
  kept : h.left = none → (h.taken ++ h.inbox.queue).map some = h.accepted
  inTurn : (h.inbox.acknowledged.map Response.ticket ++ h.inbox.waiting.map Waiting.ticket).Pairwise (· < ·)
  /-- When a message is taken, the one that waits longest is admitted. -/
  oneEach : (h.step .take).taken = h.taken ++ h.inbox.queue.head?.toList ∧
    (h.step .take).inbox.waiting = h.inbox.waiting.tail ∧
    (h.step .take).inbox.queue =
      h.inbox.queue.tail ++ (h.inbox.waiting.head?.map Waiting.message).toList ∧
    (h.step .take).inbox.responses = h.inbox.responses ++
      (h.inbox.waiting.head?.map fun w => ⟨w.ticket, h.inbox.now, .accepted w.message⟩).toList
  onlyTakes : ∀ e, e ≠ .take → ∀ w ∈ h.inbox.waiting, ∀ x ∈ (h.step e).inbox.acknowledged,
    x.ticket ≠ w.ticket
  once : (h.inbox.responses.map Response.ticket).Nodup
  settled : ∀ k time d m, h.arrivals[k]? = some (time, d) → d.Carries m → h.Settled patience k time m
  atOnce : ∀ d m, d.Carries m → h.left = none → h.inbox.queue.length < capacity →
    (h.step (.post d)).inbox =
      { h.inbox with
        arrived := h.inbox.arrived + 1, queue := h.inbox.queue ++ [m]
        responses := h.inbox.responses ++ [⟨h.inbox.arrived, h.inbox.now, .accepted m⟩] }
  /-- A request that holds no message is told so, and leaves all else as it is. -/
  refused : ∀ k time d, h.arrivals[k]? = some (time, d) → (∀ m, ¬ d.Carries m) →
    ∃ x ∈ h.inbox.responses, x.ticket = k ∧ x.time = time ∧ x.answer.status ≠ 200 ∧ x.answer.status ≠ 503
  unread : ∀ d, (∀ m, ¬ d.Carries m) → ∃ a : Answer, a.status ≠ 200 ∧ a.status ≠ 503 ∧
    (h.step (.post d)).inbox =
      { h.inbox with
        arrived := h.inbox.arrived + 1
        responses := h.inbox.responses ++ [⟨h.inbox.arrived, h.inbox.now, a⟩] }

namespace Sound

/-- Only a message that comes can be admitted while none is taken. -/
theorem acknowledged_step (s : Sound capacity patience h) {e : Event} (other : e ≠ .take) :
    (h.step e).inbox.acknowledged.map Response.ticket <+:
      h.inbox.acknowledged.map Response.ticket ++ [h.inbox.arrived] := by
  cases e with
  | post d =>
    obtain ⟨m, carries, holds⟩ | ⟨-, a, fails, status, -⟩ := d.message_cases
    · simp only [Intake.step, Inbox.post_of_ok holds s.used]
      split
      · simp [Inbox.acknowledged, Answer.status]
      · split
        · simp [Inbox.acknowledged, Answer.status]
        · simp [Inbox.acknowledged]
    · simp [Intake.step, Inbox.post_of_error fails, Inbox.acknowledged, status]
  | pass time =>
    obtain ⟨late, early, -, -, -, same⟩ :=
      Inbox.advance_of_used s.used s.ahead (Nat.le_add_right h.inbox.now time)
    simp [Intake.step, same, Inbox.acknowledged, Answer.status, List.filter_map, Function.comp_def]
  | take => exact absurd rfl other
  | close =>
    simp [Intake.step, Inbox.close_of_used s.used, Inbox.acknowledged, Answer.status, List.filter_map,
      Function.comp_def]

theorem ticket_cases (s : Sound capacity patience h) {k : Nat} {arrival : Nat × Delivery}
    (came : h.arrivals[k]? = some arrival) :
    (∃ x ∈ h.inbox.responses, x.ticket = k) ∨
    (∃ w ∈ h.inbox.waiting, w.ticket = k) ∧ k ∉ h.inbox.responses.map Response.ticket := by
  obtain ⟨bound, -⟩ := List.getElem?_eq_some_iff.mp came
  have perm := s.consistent.tickets_perm
  have member : k ∈ h.inbox.tickets := by
    rw [perm.mem_iff, List.mem_range, s.arrived_eq]
    exact bound
  have nodup := perm.nodup_iff.mpr List.nodup_range
  rw [Inbox.tickets, s.used, List.nil_append] at member nodup
  rcases List.mem_append.mp member with answered | waits
  · exact Or.inl (List.mem_map.mp answered)
  · refine Or.inr ⟨List.mem_map.mp waits, fun answered => ?_⟩
    exact (List.nodup_append.mp nodup).2.2 k answered k waits rfl

theorem settled_of_carries (s : Sound capacity patience h) {k time : Nat}
    (came : h.arrivals[k]? = some (time, d)) (carries : d.Carries m) : h.Settled patience k time m := by
  have holds := Delivery.message_eq_ok_iff.mpr carries
  obtain ⟨x, here, rfl⟩ | ⟨⟨w, here, rfl⟩, unanswered⟩ := s.ticket_cases came
  · obtain ⟨-, time', d', found, right⟩ := s.right x here
    rw [came] at found
    cases found
    cases right with
    | admitted ticket at_ m' carries' later patient attended =>
      rw [Delivery.message_eq_ok_iff.mpr carries'] at holds
      cases holds
      exact .admitted _ here ⟨rfl, rfl⟩ later patient attended
    | turnedAway ticket at_ m' carries' due => exact .turnedAway _ here ⟨rfl, rfl⟩ due
    | refused ticket a fails =>
      rw [fails] at holds
      cases holds
  · obtain ⟨⟨soon, -⟩, time', d', found, carries', deadline⟩ := s.due w here
    rw [came] at found
    cases found
    rw [Delivery.message_eq_ok_iff.mpr carries'] at holds
    cases holds
    exact .waits w here ⟨rfl, rfl⟩ unanswered (s.full (List.ne_nil_of_mem here)).1 (deadline ▸ soon)

theorem refused_of_not_carries (s : Sound capacity patience h) {k time : Nat}
    (came : h.arrivals[k]? = some (time, d)) (none : ∀ m, ¬ d.Carries m) :
    ∃ x ∈ h.inbox.responses, x.ticket = k ∧ x.time = time ∧ x.answer.status ≠ 200 ∧ x.answer.status ≠ 503 := by
  obtain ⟨x, here, rfl⟩ | ⟨⟨w, here, rfl⟩, unanswered⟩ := s.ticket_cases came
  · obtain ⟨-, time', d', found, right⟩ := s.right x here
    rw [came] at found
    cases found
    cases right with
    | admitted ticket at_ m carries later patient attended => exact absurd carries (none m)
    | turnedAway ticket at_ m carries due => exact absurd carries (none m)
    | refused ticket a fails =>
      obtain ⟨m, carries, -⟩ | ⟨-, a', fails', success, failure⟩ := d.message_cases
      · exact absurd carries (none m)
      · rw [fails] at fails'
        cases fails'
        exact ⟨_, here, rfl, rfl, success, failure⟩
  · obtain ⟨-, time', d', found, carries, -⟩ := s.due w here
    rw [came] at found
    cases found
    exact absurd carries (none w.message)

theorem accepted_eq (s : Sound capacity patience h) :
    (h.inbox.admissions.map Prod.snd).map some = h.accepted := s.consistent.admissions_eq

/-- Those that wait came after all that were admitted, and before whatever comes next. -/
theorem waiting_between (s : Sound capacity patience h) {w : Waiting} (here : w ∈ h.inbox.waiting) :
    (∀ ticket ∈ h.inbox.acknowledged.map Response.ticket, ticket < w.ticket) ∧ w.ticket < h.inbox.arrived := by
  obtain ⟨line, -, before⟩ := List.pairwise_append.mp s.ascending
  refine ⟨fun ticket member => ?_, before w.ticket ?_ _ (List.mem_singleton_self _)⟩
  · exact (List.pairwise_append.mp line).2.2 ticket member w.ticket (List.mem_map_of_mem here)
  · exact List.mem_append_right _ (List.mem_map_of_mem here)

theorem fair (s : Sound capacity patience h) : h.Fair capacity patience where
  bounded := s.bounded
  waits := s.full
  taken := by
    rw [← s.accepted_eq]
    refine List.IsPrefix.map some ?_
    cases left : h.left with
    | none => exact s.kept left ▸ List.prefix_append ..
    | some leaving => exact (s.lost (by simp [left])).2
  kept going := by rw [s.kept going, s.accepted_eq]
  inTurn := (List.pairwise_append.mp s.ascending).1
  oneEach := by
    rw [s.take_eq]
    exact ⟨rfl, rfl, rfl, rfl⟩
  onlyTakes e other w here x member same := by
    obtain ⟨before, after⟩ := s.waiting_between here
    have among := (s.acknowledged_step other).subset (List.mem_map_of_mem member)
    rcases List.mem_append.mp among with old | new
    · have := before x.ticket old
      omega
    · have := List.mem_singleton.mp new
      omega
  once := s.consistent.nodup
  settled k time d m came carries := s.settled_of_carries came carries
  atOnce d m carries going room := by
    have live : ¬(h.inbox.attended = false ∨ h.inbox.capacity ≤ h.inbox.queue.length ∧ h.inbox.patience = 0) := by
      rw [s.attended_eq, going, s.capacity_eq]
      simp
      omega
    rw [← s.capacity_eq] at room
    rw [Intake.step, Inbox.post_of_ok (Delivery.message_eq_ok_iff.mpr carries) s.used, if_neg live,
      if_pos room]
  refused k time d came none := s.refused_of_not_carries came none
  unread d none := by
    obtain ⟨m, carries, -⟩ | ⟨-, a, fails, success, failure⟩ := d.message_cases
    · exact absurd carries (none m)
    · exact ⟨a, success, failure, Inbox.post_of_error fails⟩

end Sound

end Intake

/-- Whatever comes to an inbox with room for a message at least, and whenever its receiver takes messages or
leaves, messages go in and out in turn. -/
theorem messages_handed_over_in_turn {capacity : Nat} (room : 0 < capacity) (patience now : Nat)
    (events : List Intake.Event) :
    let h := ({ inbox := { capacity, patience, now } } : Intake).run events
    h.Fair capacity patience ∧ h.arrivals.map Prod.snd = events.filterMap Intake.Event.delivery? :=
  ⟨((Intake.Sound.start room now).run events).fair, Intake.run_arrivals _ events⟩

/-- The second message waits until the first is taken, the third until its patience ends, and the fourth until
the receiver leaves; the last finds nobody. -/
theorem messages_handed_over_in_turn_when_full :
    let a : Delivery := { body := (Message.mk "a").json.toUTF8 }
    let b : Delivery := { body := (Message.mk "b").json.toUTF8 }
    let noise : Delivery := { body := "a".toUTF8 }
    let events : List Intake.Event :=
      [.post a, .post b, .post noise, .pass 2, .take, .post a, .pass 9, .post b, .close, .post a]
    let h := ({ inbox := { capacity := 1, patience := 5 } } : Intake).run events
    0 < 1 ∧ h.Fair 1 5 ∧ h.arrivals.map Prod.fst = [0, 0, 0, 2, 11, 11] ∧ h.taken = [⟨"a"⟩] ∧
      h.inbox.responses.map (fun x => (x.ticket, x.time, x.answer.status)) =
        [(0, 0, 200), (2, 0, 400), (1, 2, 200), (3, 7, 503), (4, 11, 503), (5, 11, 503)] := by
  intro a b noise events h
  refine ⟨Nat.one_pos, (messages_handed_over_in_turn Nat.one_pos 5 0 events).1, ?_⟩
  decide +kernel +revert

end BrokerTrial
