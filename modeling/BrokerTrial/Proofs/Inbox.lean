import Mathlib
import BrokerTrial.Inbox

/-!
# What an inbox keeps

Every request has a ticket of its own, and it is answered once or still waits. A message is in the queue
from the moment its request is answered with success, and a request is answered so only for the message
that it holds.
-/

namespace BrokerTrial

variable {b b' : Inbox} {d : Delivery} {d? : Option Delivery} {m : Message} {posts : List Delivery}

namespace Answer

theorem status_eq_ok_iff (a : Answer) : a.status = 200 ↔ a.message?.isSome = true := by
  cases a <;> simp [status, message?]

end Answer

namespace Delivery

theorem message_error {a : Answer} (h : d.message = .error a) : a.message? = none := by
  unfold message at h
  split at h
  · cases h; rfl
  · split at h
    · cases h; rfl
    · split at h
      · cases h; rfl
      · cases decoded : Message.ofBytes d.body with
        | ok m => rw [decoded] at h; cases h
        | error p => rw [decoded] at h; cases h; rfl

theorem message_ok (path : d.path = resultPath) (method : d.method = "POST")
    (size : d.body.size ≤ bodyLimit) (decoded : Message.ofBytes d.body = .ok m) : d.message = .ok m := by
  unfold message
  rw [if_neg (not_not_intro path), if_neg (not_not_intro method), if_neg (Nat.not_lt.mpr size), decoded]
  rfl

end Delivery

namespace Inbox

/-- What one event can change, and the request that it brings. -/
inductive Change (b : Inbox) : Option Delivery → Inbox → Prop where
  | still : Change b none b
  | later (time : Nat) : Change b none { b with now := max b.now time }
  | refused (d : Delivery) (a : Answer) (failed : a.message? = none) :
      Change b (some d)
        { b with arrived := b.arrived + 1, responses := b.responses ++ [⟨b.arrived, b.now, a⟩] }
  | queued (d : Delivery) (m : Message) (holds : d.message = .ok m) (attended : b.attended = true)
      (room : b.queue.length + b.admitted.length < b.capacity) :
      Change b (some d)
        { b with arrived := b.arrived + 1, queue := b.queue ++ [m]
                 responses := b.responses ++ [⟨b.arrived, b.now, .accepted m⟩] }
  | waits (d : Delivery) (m : Message) (holds : d.message = .ok m) (attended : b.attended = true)
      (full : b.capacity ≤ b.queue.length + b.admitted.length) :
      Change b (some d)
        { b with arrived := b.arrived + 1
                 waiting := b.waiting ++ [⟨b.arrived, m, b.now + b.patience⟩] }
  | used (front back : List Waiting) (w : Waiting) (held : b.admitted = front ++ w :: back)
      (attended : b.attended = true) :
      Change b none
        { b with admitted := front ++ back, queue := b.queue ++ [w.message]
                 responses := b.responses ++ [⟨w.ticket, b.now, .accepted w.message⟩] }
  | unused (front back : List Waiting) (w : Waiting) (held : b.admitted = front ++ w :: back)
      (left : b.attended = false) :
      Change b none
        { b with admitted := front ++ back
                 responses := b.responses ++ [⟨w.ticket, b.now, .unavailable⟩] }
  | turnedAway (front back : List Waiting) (w : Waiting) (held : b.waiting = front ++ w :: back)
      (reason : b.attended = false ∨ w.deadline ≤ b.now) :
      Change b none
        { b with waiting := front ++ back
                 responses := b.responses ++ [⟨w.ticket, b.now, .unavailable⟩] }

theorem offer_change (holds : d.message = .ok m) : b.Change (some d) (b.offer m) := by
  unfold offer
  dsimp only
  split
  · exact .refused d .unavailable rfl
  · rename_i attended
    simp only [Bool.not_eq_true', Bool.not_eq_false] at attended
    split
    · rename_i room
      exact .queued d m holds attended room
    · rename_i full
      split
      · exact .refused d .unavailable rfl
      · exact .waits d m holds attended (Nat.not_lt.mp full)

theorem post_change : b.Change (some d) (b.post d) := by
  unfold post
  split
  · rename_i m holds
    exact offer_change holds
  · rename_i a fails
    exact .refused d a (Delivery.message_error fails)

theorem eraseP_of_find? {ws : List Waiting} {ticket : Nat} {w : Waiting}
    (found : ws.find? (·.ticket = ticket) = some w) :
    ∃ front back, ws = front ++ w :: back ∧ ws.eraseP (·.ticket = ticket) = front ++ back ∧
      w.ticket = ticket := by
  obtain ⟨here, front, back, rfl, before⟩ := List.find?_eq_some_iff_append.mp found
  refine ⟨front, back, rfl, ?_, by simpa using here⟩
  rw [List.eraseP_append_right _ (by simpa using before)]
  simp [of_decide_eq_true here]

theorem resume_change (ticket : Nat) : b.Change none (b.resume ticket) := by
  unfold resume
  split
  · rename_i w found
    obtain ⟨front, back, held, erased, rfl⟩ := eraseP_of_find? found
    dsimp only
    rw [erased]
    split
    · rename_i attended
      exact .used front back w held attended
    · rename_i left
      exact .unused front back w held (by simpa using left)
  · split
    · rename_i w found
      obtain ⟨front, back, held, erased, rfl⟩ := eraseP_of_find? found
      split
      · exact .still
      · rename_i past
        rw [erased]
        refine .turnedAway front back w held ?_
        rcases Bool.eq_false_or_eq_true b.attended with attended | left
        · exact Or.inr (Nat.not_lt.mp fun early => past ⟨attended, early⟩)
        · exact Or.inl left
    · exact .still

theorem step_change (e : Event) : b.Change e.delivery? (b.step e) := by
  cases e with
  | post d => exact post_change
  | resume ticket => exact resume_change ticket
  | tick time => exact .later time

/-! ### Tickets -/

/-- The tickets of the requests that were answered or still wait. -/
def tickets (b : Inbox) : List Nat :=
  b.responses.map Response.ticket ++ (b.admitted ++ b.waiting).map Waiting.ticket

/-- The request that has a ticket holds a message. -/
def Holds (posts : List Delivery) (ticket : Nat) (m : Message) : Prop :=
  ∃ d, posts[ticket]? = some d ∧ d.message = .ok m

/-- Every request is accounted for, and every message is that of its request. -/
structure Consistent (posts : List Delivery) (b : Inbox) : Prop where
  arrived_eq : b.arrived = posts.length
  tickets_perm : b.tickets.Perm (List.range b.arrived)
  answered : ∀ x ∈ b.responses, ∀ m, x.answer.message? = some m → Holds posts x.ticket m
  held : ∀ w ∈ b.admitted ++ b.waiting, Holds posts w.ticket w.message

theorem Holds.append {ticket : Nat} (h : Holds posts ticket m) (more : List Delivery) :
    Holds (posts ++ more) ticket m := by
  obtain ⟨d, found, holds⟩ := h
  obtain ⟨bound, -⟩ := List.getElem?_eq_some_iff.mp found
  exact ⟨d, by rw [List.getElem?_append_left bound, found], holds⟩

theorem holds_last (holds : d.message = .ok m) : Holds (posts ++ [d]) posts.length m :=
  ⟨d, by simp, holds⟩

namespace Change

theorem arrived_eq (c : b.Change d? b') : b'.arrived = b.arrived + d?.toList.length := by
  cases c <;> rfl

/-- Only a request that arrives brings a new ticket. -/
theorem tickets_perm (c : b.Change d? b') :
    b'.tickets.Perm (b.tickets ++ d?.toList.map fun _ => b.arrived) := by
  refine List.perm_iff_count.mpr fun x => ?_
  cases c with
  | still => simp
  | later time => simp [tickets]
  | refused d a failed =>
    simp [tickets, List.count_cons]
    omega
  | queued d m holds attended room =>
    simp [tickets, List.count_cons]
    omega
  | waits d m holds attended full => simp [tickets]
  | used front back w held attended =>
    simp [tickets, held, List.count_cons]
    omega
  | unused front back w held left =>
    simp [tickets, held, List.count_cons]
    omega
  | turnedAway front back w held reason =>
    simp [tickets, held, List.count_cons]
    omega

end Change

theorem sublist_rest (front : List Waiting) (w : Waiting) (back : List Waiting) :
    (front ++ back).Sublist (front ++ w :: back) :=
  (List.sublist_cons_self w back).append_left front

theorem answered_concat {responses : List Response} {x : Response}
    (old : ∀ y ∈ responses, ∀ m, y.answer.message? = some m → Holds posts y.ticket m)
    (new : ∀ m, x.answer.message? = some m → Holds posts x.ticket m) :
    ∀ y ∈ responses ++ [x], ∀ m, y.answer.message? = some m → Holds posts y.ticket m := by
  intro y member
  rcases List.mem_append.mp member with here | last
  · exact old y here
  · rw [List.mem_singleton.mp last]
    exact new

namespace Consistent

theorem answered_append (h : Consistent posts b) (more : List Delivery) :
    ∀ x ∈ b.responses, ∀ m, x.answer.message? = some m → Holds (posts ++ more) x.ticket m :=
  fun x member m success => (h.answered x member m success).append more

theorem answered_step (h : Consistent posts b) (c : b.Change d? b') :
    ∀ x ∈ b'.responses, ∀ m, x.answer.message? = some m → Holds (posts ++ d?.toList) x.ticket m := by
  have old := h.answered_append d?.toList
  cases c with
  | still => exact old
  | later time => exact old
  | refused d a failed => exact answered_concat old fun m success => by simp [failed] at success
  | queued d m holds attended room =>
    refine answered_concat old fun m' success => ?_
    cases success
    rw [h.arrived_eq]
    exact holds_last holds
  | waits d m holds attended full => exact old
  | used front back w held attended =>
    refine answered_concat old fun m success => ?_
    cases success
    exact (h.held w (by simp [held])).append _
  | unused front back w held left => exact answered_concat old fun m success => by cases success
  | turnedAway front back w held reason => exact answered_concat old fun m success => by cases success

theorem held_step (h : Consistent posts b) (c : b.Change d? b') :
    ∀ w ∈ b'.admitted ++ b'.waiting, Holds (posts ++ d?.toList) w.ticket w.message := by
  have old : ∀ w ∈ b.admitted ++ b.waiting, Holds (posts ++ d?.toList) w.ticket w.message :=
    fun w member => (h.held w member).append _
  intro x member
  cases c with
  | still => exact old x member
  | later time => exact old x member
  | refused d a failed => exact old x member
  | queued d m holds attended room => exact old x member
  | waits d m holds attended full =>
    rw [← List.append_assoc] at member
    rcases List.mem_append.mp member with here | last
    · exact old x here
    · rw [List.mem_singleton.mp last, h.arrived_eq]
      exact holds_last holds
  | used front back w held attended =>
    rw [held] at old
    exact old x (((sublist_rest front w back).append_right _).subset member)
  | unused front back w held left =>
    rw [held] at old
    exact old x (((sublist_rest front w back).append_right _).subset member)
  | turnedAway front back w held reason =>
    rw [held] at old
    exact old x (((sublist_rest front w back).append_left _).subset member)

theorem step (h : Consistent posts b) (c : b.Change d? b') : Consistent (posts ++ d?.toList) b' := by
  refine ⟨?_, ?_, h.answered_step c, h.held_step c⟩
  · rw [c.arrived_eq, h.arrived_eq, List.length_append]
  · have perm := c.tickets_perm.trans (h.tickets_perm.append_right _)
    rw [c.arrived_eq]
    cases d? with
    | none => simpa using perm
    | some d => simpa [List.range_succ] using perm

theorem run (h : Consistent posts b) (events : List Event) :
    Consistent (posts ++ events.filterMap Event.delivery?) (b.run events) := by
  induction events generalizing posts b with
  | nil => simpa [Inbox.run] using h
  | cons e rest ih =>
    have rest := ih (h.step (step_change e))
    rw [List.append_assoc] at rest
    cases came : e.delivery? with
    | none => simpa [came, Inbox.run] using rest
    | some d => simpa [came, Inbox.run] using rest

theorem nodup (h : Consistent posts b) : (b.responses.map Response.ticket).Nodup :=
  (List.nodup_append.mp (h.tickets_perm.nodup_iff.mpr List.nodup_range)).1

end Consistent

/-! ### Admission -/

namespace Change

theorem now_le (c : b.Change d? b') : b.now ≤ b'.now := by
  cases c with
  | later time => exact Nat.le_max_left ..
  | _ => exact Nat.le_refl _

theorem attended_eq (c : b.Change d? b') : b'.attended = b.attended := by
  cases c <;> rfl

theorem capacity_eq (c : b.Change d? b') : b'.capacity = b.capacity := by
  cases c <;> rfl

theorem responses_subset (c : b.Change d? b') : b.responses ⊆ b'.responses := by
  cases c with
  | still | later | waits => exact List.Subset.refl _
  | refused | queued | used | unused | turnedAway => exact List.subset_append_left ..

theorem responses_new (c : b.Change d? b') :
    ∀ x ∈ b'.responses, x ∈ b.responses ∨ x.time = b.now := by
  intro x member
  cases c with
  | still | later | waits => exact Or.inl member
  | refused | queued | used | unused | turnedAway =>
    rcases List.mem_append.mp member with old | new
    · exact Or.inl old
    · rw [List.mem_singleton.mp new]
      exact Or.inr rfl

/-- What is answered with success is put into the queue at that moment, and only if there is a receiver. -/
theorem admits (c : b.Change d? b') :
    ∃ new, b'.queue = b.queue ++ new ∧ b'.admissions = b.admissions ++ new.map (b.now, ·) ∧
      (b.attended = false → new = []) := by
  cases c with
  | still => exact ⟨[], by simp, by simp, fun _ => rfl⟩
  | later time => exact ⟨[], by simp, by simp [admissions], fun _ => rfl⟩
  | refused d a failed => exact ⟨[], by simp, by simp [admissions, failed], fun _ => rfl⟩
  | queued d m holds attended room =>
    exact ⟨[m], rfl, by simp [admissions, Answer.message?], fun left => by simp [attended] at left⟩
  | waits d m holds attended full => exact ⟨[], by simp, by simp [admissions], fun _ => rfl⟩
  | used front back w held attended =>
    exact ⟨[w.message], rfl, by simp [admissions, Answer.message?], fun left => by simp [attended] at left⟩
  | unused front back w held left =>
    exact ⟨[], by simp, by simp [admissions, Answer.message?], fun _ => rfl⟩
  | turnedAway front back w held reason =>
    exact ⟨[], by simp, by simp [admissions, Answer.message?], fun _ => rfl⟩

end Change

/-! ### Acknowledgement -/

/-- The answers of success, in the order in which they were given. -/
def acknowledged (b : Inbox) : List Response := b.responses.filter (·.answer.status = 200)

theorem mem_admissions_of_acknowledged {x : Response} (h : x ∈ b.acknowledged) :
    ∃ m, x.answer.message? = some m ∧ (x.time, m) ∈ b.admissions := by
  obtain ⟨member, success⟩ := List.mem_filter.mp h
  rw [decide_eq_true_eq, Answer.status_eq_ok_iff, Option.isSome_iff_exists] at success
  obtain ⟨m, holds⟩ := success
  exact ⟨m, holds, List.mem_filterMap.mpr ⟨x, member, by rw [holds]; rfl⟩⟩

/-- The messages that were put into the queue are those of the requests that were answered with success. -/
theorem Consistent.admissions_eq (h : Consistent posts b) :
    (b.admissions.map Prod.snd).map some =
      b.acknowledged.map fun x => posts[x.ticket]?.bind (·.message.toOption) := by
  have answered := h.answered
  unfold admissions acknowledged
  generalize b.responses = responses at answered
  induction responses with
  | nil => rfl
  | cons x rest ih =>
    have rest := ih fun y member => answered y (List.mem_cons_of_mem x member)
    cases success : x.answer.message? with
    | none =>
      have status : ¬ x.answer.status = 200 := by rw [Answer.status_eq_ok_iff, success]; simp
      simpa [success, status] using rest
    | some m =>
      have status : x.answer.status = 200 := by rw [Answer.status_eq_ok_iff, success]; rfl
      obtain ⟨d, found, holds⟩ := answered x (List.mem_cons_self ..) m success
      simpa [success, status, found, holds, Except.toOption] using rest

theorem Change.acknowledged_eq (c : b.Change d? b') (left : b.attended = false) :
    b'.acknowledged = b.acknowledged := by
  cases c with
  | refused d a failed =>
    have status : ¬ a.status = 200 := by rw [Answer.status_eq_ok_iff, failed]; simp
    simp [acknowledged, status]
  | queued d m holds attended room => simp [attended] at left
  | used front back w held attended => simp [attended] at left
  | unused front back w held left => simp [acknowledged, Answer.status]
  | turnedAway front back w held reason => simp [acknowledged, Answer.status]
  | _ => rfl

/-! ### Taking a message -/

/-- What a receiver takes was first in the queue; the delivery that waits longest is given its room. -/
theorem receive_cases (h : b.receive = some (m, b')) :
    ∃ queue, b.queue = m :: queue ∧
      ((b.waiting = [] ∧ b' = { b with queue }) ∨
        ∃ w waiting, b.waiting = w :: waiting ∧
          b' = { b with queue, waiting, admitted := b.admitted ++ [w] }) := by
  unfold receive at h
  split at h
  · cases h
  · rename_i queue filled none
    cases h
    exact ⟨queue, filled, Or.inl ⟨none, rfl⟩⟩
  · rename_i queue w waiting filled some
    cases h
    exact ⟨queue, filled, Or.inr ⟨w, waiting, some, rfl⟩⟩

theorem receive_eq_none (h : b.receive = none) : b.queue = [] := by
  unfold receive at h
  split at h
  · assumption
  · cases h
  · cases h

theorem Consistent.receive (h : Consistent posts b) (taken : b.receive = some (m, b')) :
    Consistent posts b' := by
  obtain ⟨queue, -, ⟨-, rfl⟩ | ⟨w, waiting, head, rfl⟩⟩ := receive_cases taken
  · exact ⟨h.arrived_eq, h.tickets_perm, h.answered, h.held⟩
  · have same : b.admitted ++ [w] ++ waiting = b.admitted ++ b.waiting := by simp [head]
    refine ⟨h.arrived_eq, ?_, h.answered, ?_⟩
    · have perm := h.tickets_perm
      simp only [tickets, ← same] at perm
      exact perm
    · have held := h.held
      rw [← same] at held
      exact held

theorem Consistent.leave (h : Consistent posts b) : Consistent posts b.leave :=
  ⟨h.arrived_eq, h.tickets_perm, h.answered, h.held⟩

/-! ### Everything that is done to an inbox is a run -/

theorem run_append (b : Inbox) (first second : List Event) :
    b.run (first ++ second) = (b.run first).run second := by
  induction first generalizing b with
  | nil => rfl
  | cons e rest ih => exact ih (b.step e)

/-- Events lead from one inbox to another, and they bring these requests. -/
def Leads (b : Inbox) (posts : List Delivery) (b' : Inbox) : Prop :=
  ∃ events, b.run events = b' ∧ events.filterMap Event.delivery? = posts

namespace Leads

variable {first second : List Delivery} {b₁ b₂ b₃ : Inbox}

theorem refl (b : Inbox) : b.Leads [] b := ⟨[], rfl, rfl⟩

theorem trans (h : b₁.Leads first b₂) (h' : b₂.Leads second b₃) : b₁.Leads (first ++ second) b₃ := by
  obtain ⟨events, rfl, rfl⟩ := h
  obtain ⟨more, rfl, rfl⟩ := h'
  exact ⟨events ++ more, run_append .., List.filterMap_append⟩

theorem post (b : Inbox) (d : Delivery) : b.Leads [d] (b.post d) := ⟨[.post d], rfl, rfl⟩

theorem resume (b : Inbox) (ticket : Nat) : b.Leads [] (b.resume ticket) := ⟨[.resume ticket], rfl, rfl⟩

theorem tick (b : Inbox) (time : Nat) : b.Leads [] (b.tick time) := ⟨[.tick time], rfl, rfl⟩

theorem resumeAll (b : Inbox) (ws : List Waiting) : b.Leads [] (b.resumeAll ws) := by
  induction ws generalizing b with
  | nil => exact refl b
  | cons w rest ih => exact (resume b w.ticket).trans (ih _)

theorem advance (b : Inbox) (time : Nat) : b.Leads [] (b.advance time) := by
  have late (ws : List Waiting) (b : Inbox) :
      b.Leads [] (ws.foldl (fun b w => (b.tick w.deadline).resume w.ticket) b) := by
    induction ws generalizing b with
    | nil => exact refl b
    | cons w rest ih => exact ((tick b w.deadline).trans (resume _ w.ticket)).trans (ih _)
  exact (late _ b).trans (tick _ time)

theorem postAll (b : Inbox) (arrivals : List (Nat × Delivery)) :
    b.Leads (arrivals.map Prod.snd) (b.postAll arrivals) := by
  induction arrivals generalizing b with
  | nil => exact refl b
  | cons arrival rest ih =>
    obtain ⟨time, d⟩ := arrival
    exact ((advance b (max b.now time)).trans (post _ d)).trans (ih _)

end Leads

theorem Leads.capacity_eq (h : b.Leads posts b') : b'.capacity = b.capacity := by
  obtain ⟨events, rfl, -⟩ := h
  induction events generalizing b with
  | nil => rfl
  | cons e rest ih => exact ih.trans (step_change e).capacity_eq

/-! ### The clock -/

theorem resume_now (ticket : Nat) : (b.resume ticket).now = b.now := by
  unfold resume
  split
  · dsimp only
    split <;> rfl
  · split
    · split <;> rfl
    · rfl

theorem post_now (d : Delivery) : (b.post d).now = b.now := by
  unfold post offer
  dsimp only
  split
  · split
    · rfl
    · split
      · rfl
      · split <;> rfl
  · rfl

theorem resumeAll_now (ws : List Waiting) : (b.resumeAll ws).now = b.now := by
  induction ws generalizing b with
  | nil => rfl
  | cons w rest ih => exact ih.trans (resume_now w.ticket)

theorem resumeAll_responses (b : Inbox) (ws : List Waiting) :
    b.responses ⊆ (b.resumeAll ws).responses ∧
      ∀ x ∈ (b.resumeAll ws).responses, x ∈ b.responses ∨ x.time = b.now := by
  induction ws generalizing b with
  | nil => exact ⟨List.Subset.refl _, fun x member => Or.inl member⟩
  | cons w rest ih =>
    have change := resume_change (b := b) w.ticket
    obtain ⟨kept, fresh⟩ := ih (b.resume w.ticket)
    refine ⟨List.Subset.trans change.responses_subset kept, fun x member => ?_⟩
    rcases fresh x member with old | now
    · exact change.responses_new x old
    · exact Or.inr (now.trans (resume_now w.ticket))

theorem advance_now_le {time limit : Nat} (now_le : b.now ≤ limit) (le : time ≤ limit) :
    (b.advance time).now ≤ limit := by
  have late (ws : List Waiting) (b : Inbox) (due : ∀ w ∈ ws, w.deadline ≤ limit) (now_le : b.now ≤ limit) :
      (ws.foldl (fun b w => (b.tick w.deadline).resume w.ticket) b).now ≤ limit := by
    induction ws generalizing b with
    | nil => exact now_le
    | cons w rest ih =>
      refine ih _ (fun x member => due x (List.mem_cons_of_mem _ member)) ?_
      rw [resume_now]
      exact Nat.max_le.mpr ⟨now_le, due w (List.mem_cons_self ..)⟩
  refine Nat.max_le.mpr ⟨late _ b (fun w member => Nat.le_trans ?_ le) now_le, le⟩
  simpa using (List.mem_filter.mp member).2

theorem advance_now {time : Nat} (now_le : b.now ≤ time) : (b.advance time).now = time :=
  Nat.le_antisymm (advance_now_le now_le (Nat.le_refl time)) (Nat.le_max_right ..)

theorem postAll_now_le {arrivals : List (Nat × Delivery)} {limit : Nat} (now_le : b.now ≤ limit)
    (before : ∀ time ∈ arrivals.map Prod.fst, time ≤ limit) : (b.postAll arrivals).now ≤ limit := by
  induction arrivals generalizing b with
  | nil => exact now_le
  | cons arrival rest ih =>
    obtain ⟨time, d⟩ := arrival
    refine ih ?_ fun x member => before x (List.mem_cons_of_mem _ member)
    rw [post_now, advance_now (Nat.le_max_left ..)]
    exact Nat.max_le.mpr ⟨now_le, before time (List.mem_cons_self ..)⟩

end Inbox

end BrokerTrial
