import Mathlib
import BrokerTrial.Proofs.Inevitable
import BrokerTrial.Proofs.Reception.Drain
import BrokerTrial.Reception.Feed

/-!
# Whoever goes on first

However a receiver and those who send take turns, the receiver takes each message when it is sent, and reception
comes to the same end at the same time. What the capacity of the queue is makes no difference.
-/

namespace BrokerTrial

namespace Feed

open Reception

variable {window : Nat} {queued : List Message} {sends done : List (Nat × Message)} {close : Option Nat}
  {f f' : Feed}

/-- What has been sent was brisk, and each message has been taken, or is next, at the time at which it was sent. -/
structure Punctual (window : Nat) (queued : List Message) (sends : List (Nat × Message)) (close : Option Nat)
    (f : Feed) (done : List (Nat × Message)) : Prop where
  opened : f.reception.Open
  room : 0 < f.reception.inbox.capacity
  window_eq : f.reception.window = window
  sends_eq : sends = done ++ f.sends
  close_eq : f.close = close
  brisk : Brisk window 0 (done.map Prod.fst)
  takes_eq : f.takes ++ f.reception.inbox.queue.map (f.now, ·) = queued.map (0, ·) ++ done
  record_eq : f.reception.record = f.takes.map Prod.snd
  heard_eq : f.reception.lastHeard = lastTime 0 done
  now_le : f.now ≤ lastTime 0 done + window
  ahead : ∀ x ∈ f.sends, f.now ≤ x.1
  close_ahead : f.closed = false → ∀ time ∈ close, f.now ≤ time
  closed_eq : f.closed = true → f.sends = [] ∧ close = some f.now

/-- Reception has ended at the time and with the record that the schedule implies. -/
structure Drained (window : Nat) (queued : List Message) (sends : List (Nat × Message)) (close : Option Nat)
    (f : Feed) : Prop where
  ended : f.reception.ended = some f.now
  now_eq : f.now = endsAt window 0 sends (prompt window 0 sends) close
  record_eq : f.reception.record = queued ++ (prompt window 0 sends).map Prod.snd
  takes_eq : f.takes = queued.map (0, ·) ++ prompt window 0 sends

/-- It falls with every step: a message is sent and taken, and each time the receiver may wait for a window. -/
def rank (f : Feed) : Nat :=
  (2 * f.sends.length + f.reception.inbox.queue.length) * (f.reception.window + 1) +
    (f.reception.quiet - f.now) + (if f.closed then 0 else 1) + (if f.reception.ended.isSome then 0 else 1)

namespace Punctual

variable {time : Nat} {m : Message} {rest : List (Nat × Message)} {inbox : Inbox}

theorem begin (capacity : Nat) (room : 0 < capacity) :
    Punctual window queued sends close (.begin capacity window queued sends close) [] where
  opened := ⟨rfl, rfl, rfl, rfl⟩
  room := room
  window_eq := rfl
  sends_eq := rfl
  close_eq := rfl
  brisk := brisk_nil
  takes_eq := (List.append_nil _).symm
  record_eq := rfl
  heard_eq := ite_self _
  now_le := Nat.zero_le _
  ahead _ _ := Nat.zero_le _
  close_ahead _ _ _ := Nat.zero_le _
  closed_eq no := by cases no

theorem send (h : Punctual window queued sends close f done)
    (apart : Apart window 0 (sends.map Prod.fst ++ close.toList)) (next : f.sends = (time, m) :: rest)
    (due : time ≤ f.now)
    (room : f.reception.inbox.queue.length + f.reception.inbox.admitted.length <
      f.reception.inbox.capacity) :
    let f' : Feed := { f with reception := f.reception.offer m, sends := rest }
    Punctual window queued sends close f' (done ++ [(time, m)]) ∧ f'.rank < f.rank := by
  intro f'
  -- the clock never passes the time of what is next
  have now_eq : f.now = time := Nat.le_antisymm (h.ahead (time, m) (by simp [next])) due
  have there : done.map Prod.fst ++ [time] <+: sends.map Prod.fst ++ close.toList := by
    simp [h.sends_eq, next]
  have soon : time < lastTime 0 done + window :=
    Nat.lt_of_le_of_ne (now_eq ▸ h.now_le) (apart _ time there h.brisk)
  have offered := h.opened.offer_eq (by simpa [h.opened.admitted] using room) m
  refine ⟨?_, ?_⟩
  · simp only [f', offered]
    exact
      { h with
        opened := ⟨h.opened.going, h.opened.attended, h.opened.waiting, h.opened.admitted⟩
        sends_eq := by rw [h.sends_eq, next, List.append_assoc]; rfl
        brisk := brisk_concat.mpr ⟨h.brisk, soon⟩
        takes_eq := by
          rw [← List.append_assoc, ← h.takes_eq, List.map_append, List.append_assoc, ← now_eq]
          rfl
        heard_eq := by
          rw [lastTime_concat, ← now_eq]
          exact if_neg (by simp)
        now_le := by
          rw [lastTime_concat, ← now_eq]
          exact Nat.le_add_right ..
        ahead := fun x member => h.ahead x (by rw [next]; exact List.mem_cons_of_mem _ member)
        closed_eq := fun closed => absurd (h.closed_eq closed).1 (by simp [next]) }
  -- the message is yet to be taken, but no longer to be sent
  · have waits : (2 * (rest.length + 1) + f.reception.inbox.queue.length) * (f.reception.window + 1) =
        (2 * rest.length + (f.reception.inbox.queue.length + 1)) * (f.reception.window + 1) +
          (f.reception.window + 1) := by ring
    simp only [f', offered, rank, next, List.length_cons, List.length_append, List.length_nil, Nat.zero_add, waits,
      now, Reception.quiet]
    omega

theorem hangUp (h : Punctual window queued sends close f done) (still : f.closed = false)
    (all : f.sends = []) (last : f.close = some time) (due : time ≤ f.now) :
    let f' : Feed := { f with closed := true }
    Punctual window queued sends close f' done ∧ f'.rank < f.rank := by
  intro f'
  have closes : close = some time := h.close_eq.symm.trans last
  have now_eq : f.now = time := Nat.le_antisymm (h.close_ahead still time closes) due
  refine ⟨{ h with close_ahead := fun no => (by cases no), closed_eq := fun _ => ⟨all, ?_⟩ }, ?_⟩
  · rw [closes, ← now_eq]
    rfl
  · simp [f', rank, still, now]

theorem take (h : Punctual window queued sends close f done)
    (received : f.reception.inbox.receive = some (m, inbox)) :
    let f' : Feed := { f with reception := f.reception.listen, takes := f.takes ++ [(f.now, m)] }
    Punctual window queued sends close f' done ∧ f'.rank < f.rank := by
  intro f'
  obtain ⟨queue, filled, -⟩ := Inbox.receive_cases received
  have listened := h.opened.listen_eq filled
  have heard : f.reception.lastHeard = f.now := if_neg (by simp [filled])
  refine ⟨?_, ?_⟩
  · simp only [f', listened]
    exact
      { h with
        opened := ⟨h.opened.going, h.opened.attended, h.opened.waiting, h.opened.admitted⟩
        takes_eq := by
          rw [← h.takes_eq, filled, List.map_cons, List.append_assoc]
          rfl
        record_eq := by rw [h.record_eq, List.map_append]; rfl
        heard_eq := by rw [← h.heard_eq, heard]; exact ite_self _ }
  -- the quiet is put off by no more than a window
  · have waits : (2 * f.sends.length + (queue.length + 1)) * (f.reception.window + 1) =
        (2 * f.sends.length + queue.length) * (f.reception.window + 1) + (f.reception.window + 1) := by ring
    simp only [f', listened, rank, filled, List.length_cons, waits, now, Reception.quiet]
    omega

/-- The receiver stops when it finds no message and all that was sent was the longest brisk beginning. -/
theorem stop (h : Punctual window queued sends close f done) (empty : f.reception.inbox.queue = [])
    (longest : prompt window 0 sends = done) (now_eq : f.now = endsAt window 0 sends done close) :
    let f' : Feed := { f with reception := f.reception.stop }
    Drained window queued sends close f' ∧ f'.rank < f.rank := by
  intro f'
  have takes : f.takes = queued.map (0, ·) ++ done := by simpa [empty] using h.takes_eq
  have going := h.opened.going
  refine ⟨⟨rfl, longest ▸ now_eq, ?_, longest ▸ takes⟩, ?_⟩
  · rw [longest]
    simp [f', Reception.stop, h.record_eq, takes, Function.comp_def]
  · simp [f', Reception.stop, rank, empty, going, Inbox.leave, now, Reception.quiet]

theorem leave (h : Punctual window queued sends close f done)
    (apart : Apart window 0 (sends.map Prod.fst ++ close.toList))
    (none : f.reception.inbox.receive = none) (closed : f.closed = true) :
    let f' : Feed := { f with reception := f.reception.stop }
    Drained window queued sends close f' ∧ f'.rank < f.rank := by
  obtain ⟨all, closes⟩ := h.closed_eq closed
  -- no time has passed since the sending side hung up
  have same : sends = done := by rw [h.sends_eq, all, List.append_nil]
  have there : done.map Prod.fst ++ [f.now] <+: sends.map Prod.fst ++ close.toList := by
    rw [same, closes]
    exact List.prefix_refl _
  have soon : f.now < lastTime 0 done + window := Nat.lt_of_le_of_ne h.now_le (apart _ _ there h.brisk)
  refine h.stop (Inbox.receive_eq_none none) ?_ ?_
  · have longest : prompt window 0 (done ++ []) = done := prompt_append h.brisk (by simp)
    rw [List.append_nil] at longest
    rw [same]
    exact longest
  · rw [closes, endsAt, if_pos ⟨same.symm, soon⟩]

theorem quiet (h : Punctual window queued sends close f done)
    (none : f.reception.inbox.receive = none) (still : f.closed = false) (late : f.reception.quiet ≤ f.now) :
    let f' : Feed := { f with reception := f.reception.listen }
    Drained window queued sends close f' ∧ f'.rank < f.rank := by
  have empty := Inbox.receive_eq_none none
  have heard : f.reception.heard = lastTime 0 done := by rw [← h.heard_eq, lastHeard, if_pos empty]
  have quiet : f.reception.quiet = lastTime 0 done + window := by rw [Reception.quiet, heard, h.window_eq]
  have now_eq : f.now = lastTime 0 done + window := Nat.le_antisymm h.now_le (quiet ▸ late)
  rw [listen_of_quiet h.opened.going empty late]
  refine h.stop empty ?_ ?_
  · rw [h.sends_eq]
    exact prompt_append h.brisk fun x next => now_eq ▸ h.ahead x (List.mem_of_mem_head? next)
  · cases closes : close with
    | none => exact now_eq
    | some time =>
      have later := h.close_ahead still time closes
      rw [endsAt, if_neg fun before => by omega]
      exact now_eq

/-- If nobody can go on then all has been taken, and there is nothing to be done now. -/
theorem idle (h : Punctual window queued sends close f done)
    (ordered : (sends.map Prod.fst ++ close.toList).Pairwise (· ≤ ·)) (idle : ∀ f', ¬f.Move f') :
    f.reception.inbox.queue = [] ∧ f.closed = false ∧ ∀ alarm ∈ f.alarms, f.now < alarm := by
  have none : f.reception.inbox.receive = none := by
    cases received : f.reception.inbox.receive with
    | none => rfl
    | some taken => exact absurd (.take received) (idle _)
  have empty := Inbox.receive_eq_none none
  have still : f.closed = false := by
    cases closed : f.closed with
    | false => rfl
    | true => exact absurd (.leave none closed) (idle _)
  have room : f.reception.inbox.queue.length + f.reception.inbox.admitted.length <
      f.reception.inbox.capacity := by
    rw [empty, h.opened.admitted]
    exact h.room
  refine ⟨empty, still, fun alarm member => ?_⟩
  rcases List.mem_cons.mp member with rfl | member
  · exact Nat.not_le.mp fun late => idle _ (.quiet none still late)
  · have upcoming : (f.sends.map Prod.fst ++ close.toList).Pairwise (· ≤ ·) :=
      ordered.sublist ((List.sublist_append_right ..).map _ |>.append_right _ |> (h.sends_eq ▸ ·))
    rw [h.close_eq] at member
    cases next : f.sends with
    | nil =>
      rw [next, List.map_nil, List.nil_append, Option.mem_toList] at member
      exact Nat.not_le.mp fun due => idle _ (.hangUp still next (h.close_eq.trans member) due)
    | cons x rest =>
      have undue : f.now < x.1 := Nat.not_le.mp fun due => idle _ (.send next due room)
      rw [next, List.map_cons, List.cons_append] at upcoming member
      rcases List.mem_cons.mp member with rfl | member
      · exact undue
      · exact Nat.lt_of_lt_of_le undue ((List.pairwise_cons.mp upcoming).1 alarm member)

theorem wait (h : Punctual window queued sends close f done)
    (ordered : (sends.map Prod.fst ++ close.toList).Pairwise (· ≤ ·)) (idle : ∀ f', ¬f.Move f')
    (later : f.now < time) (early : ∀ alarm ∈ f.alarms, time ≤ alarm) :
    let f' : Feed := { f with reception := f.reception.advance time }
    Punctual window queued sends close f' done ∧ f'.rank < f.rank := by
  intro f'
  obtain ⟨empty, still, -⟩ := h.idle ordered idle
  have advanced : f.reception.advance time =
      { f.reception with inbox := { f.reception.inbox with now := time } } := by
    rw [advance_of_none h.opened.waiting, Inbox.tick]
    exact congrArg (fun now => ({ f.reception with inbox := { f.reception.inbox with now } } : Reception))
      (Nat.max_eq_right (Nat.le_of_lt later))
  have heard : f.reception.heard = lastTime 0 done := by rw [← h.heard_eq, lastHeard, if_pos empty]
  have quiet : time ≤ f.reception.heard + f.reception.window := early _ (List.mem_cons_self ..)
  refine ⟨?_, ?_⟩
  · simp only [f', advanced]
    exact
      { h with
        opened := ⟨h.opened.going, h.opened.attended, h.opened.waiting, h.opened.admitted⟩
        takes_eq := by rw [← h.takes_eq, empty]; rfl
        heard_eq := by rw [← heard]; exact if_pos empty
        now_le := by rw [← heard, ← h.window_eq]; exact quiet
        ahead := fun x member => early x.1 (by simp [alarms, List.mem_map_of_mem member])
        close_ahead := fun _ time closes => early time (by simp [alarms, h.close_eq, Option.mem_def.mp closes])
        closed_eq := fun closed => by rw [still] at closed; cases closed }
  · have later : f.reception.inbox.now < time := later
    simp only [f', advanced, rank, now, Reception.quiet]
    omega

theorem step (h : Punctual window queued sends close f done)
    (ordered : (sends.map Prod.fst ++ close.toList).Pairwise (· ≤ ·))
    (apart : Apart window 0 (sends.map Prod.fst ++ close.toList)) (next : f.Step f') :
    ((∃ done, Punctual window queued sends close f' done) ∨ Drained window queued sends close f') ∧
      f'.rank < f.rank := by
  cases next with
  | wait going idle later early =>
    obtain ⟨punctual, less⟩ := h.wait ordered idle later early
    exact ⟨.inl ⟨done, punctual⟩, less⟩
  | move going move =>
    cases move with
    | send next due room =>
      obtain ⟨punctual, less⟩ := h.send apart next due room
      exact ⟨.inl ⟨_, punctual⟩, less⟩
    | hangUp still all last due =>
      obtain ⟨punctual, less⟩ := h.hangUp still all last due
      exact ⟨.inl ⟨done, punctual⟩, less⟩
    | take received =>
      obtain ⟨punctual, less⟩ := h.take received
      exact ⟨.inl ⟨done, punctual⟩, less⟩
    | leave none closed =>
      obtain ⟨drained, less⟩ := h.leave apart none closed
      exact ⟨.inr drained, less⟩
    | quiet none still late =>
      obtain ⟨drained, less⟩ := h.quiet none still late
      exact ⟨.inr drained, less⟩

theorem progress (h : Punctual window queued sends close f done)
    (ordered : (sends.map Prod.fst ++ close.toList).Pairwise (· ≤ ·)) : ∃ f', f.Step f' := by
  by_cases able : ∃ f', f.Move f'
  · obtain ⟨f', move⟩ := able
    exact ⟨f', .move h.opened.going move⟩
  · have idle := not_exists.mp able
    obtain ⟨-, -, undue⟩ := h.idle ordered idle
    exact ⟨_, .wait h.opened.going idle (Nat.lt_succ_self _) undue⟩

end Punctual

theorem Drained.no_step (h : Drained window queued sends close f) : ¬f.Step f' := by
  intro next
  cases next with
  | move going => exact absurd (h.ended.symm.trans going) (by simp)
  | wait going => exact absurd (h.ended.symm.trans going) (by simp)

theorem drained_inevitable {capacity : Nat} (room : 0 < capacity)
    (ordered : (sends.map Prod.fst ++ close.toList).Pairwise (· ≤ ·))
    (apart : Apart window 0 (sends.map Prod.fst ++ close.toList)) :
    Inevitable Step (Drained window queued sends close) (.begin capacity window queued sends close) := by
  refine inevitable_of_invariant
    (fun f => (∃ done, Punctual window queued sends close f done) ∨ Drained window queued sends close f)
    rank (.inl ⟨[], .begin capacity room⟩) (fun f f' inv next => ?_) fun f inv => ?_
  · obtain ⟨done, punctual⟩ | drained := inv
    · exact punctual.step ordered apart next
    · exact absurd next drained.no_step
  · obtain ⟨done, punctual⟩ | drained := inv
    · exact .inr (punctual.progress ordered)
    · exact .inl drained

end Feed

namespace ReceiverTask

open Feed

variable {window : Nat} {queued : List Message} {sends : List (Nat × Message)} {close : Option Nat}
  {s s' : ReceiverTask}

/-- The task is over, and who waits for the record has got it. -/
structure Published (window : Nat) (queued : List Message) (sends : List (Nat × Message)) (close : Option Nat)
    (s : ReceiverTask) : Prop where
  drained : Drained window queued sends close s.feed
  finished : s.finished = some s.feed.now
  value_eq : s.done.value = if s.done.awaited then some s.feed.reception.record else none

/-- The task receives and has handed over nothing. -/
structure Receiving (window : Nat) (queued : List Message) (sends : List (Nat × Message)) (close : Option Nat)
    (s : ReceiverTask) : Prop where
  punctual : ∃ done, Punctual window queued sends close s.feed done
  going : s.finished = none
  value_eq : s.done.value = none

def rank (s : ReceiverTask) : Nat := s.feed.rank + if s.done.awaited then 1 else 0

theorem rank_publish (s : ReceiverTask) : s.publish.rank = s.rank := by
  unfold publish
  split
  · rfl
  · unfold Slot.send
    cases awaited : s.done.awaited <;> simp [rank, awaited]

theorem publish_of_going (going : s.feed.reception.ended = none) : s.publish = s := by
  unfold publish
  rw [going]

theorem Published.publish (drained : Drained window queued sends close s.feed) (empty : s.done.value = none) :
    Published window queued sends close s.publish := by
  unfold ReceiverTask.publish
  rw [drained.ended]
  cases awaited : s.done.awaited with
  | true =>
    rw [Slot.send, if_pos awaited]
    exact ⟨drained, rfl, by simp [awaited]⟩
  | false =>
    rw [Slot.send, if_neg (by simp [awaited])]
    exact ⟨drained, rfl, by simp [awaited, empty]⟩

theorem Published.no_step (h : Published window queued sends close s) : ¬s.Step s' := by
  intro next
  cases next with
  | feed next => exact h.drained.no_step next
  | abandon going => exact absurd (h.finished.symm.trans going) (by simp)

theorem Receiving.step (h : Receiving window queued sends close s)
    (ordered : (sends.map Prod.fst ++ close.toList).Pairwise (· ≤ ·))
    (apart : Apart window 0 (sends.map Prod.fst ++ close.toList)) (next : s.Step s') :
    (Receiving window queued sends close s' ∨ Published window queued sends close s') ∧ s'.rank < s.rank := by
  cases next with
  | abandon going awaited =>
    refine ⟨.inl ⟨h.punctual, h.going, h.value_eq⟩, ?_⟩
    simp [rank, awaited]
  | @feed f next =>
    obtain ⟨done, punctual⟩ := h.punctual
    obtain ⟨fed, less⟩ := punctual.step ordered apart next
    refine ⟨?_, ?_⟩
    · obtain ⟨done, punctual⟩ | drained := fed
      · rw [publish_of_going punctual.opened.going]
        exact .inl ⟨⟨done, punctual⟩, h.going, h.value_eq⟩
      · exact .inr (.publish drained h.value_eq)
    · rw [rank_publish]
      exact Nat.add_lt_add_right less _

theorem published_inevitable {capacity : Nat} (room : 0 < capacity)
    (ordered : (sends.map Prod.fst ++ close.toList).Pairwise (· ≤ ·))
    (apart : Apart window 0 (sends.map Prod.fst ++ close.toList)) (awaited : Bool) :
    Inevitable Step (Published window queued sends close)
      { feed := .begin capacity window queued sends close, done := { awaited } } := by
  refine inevitable_of_invariant
    (fun s => Receiving window queued sends close s ∨ Published window queued sends close s) rank
    (.inl ⟨⟨[], .begin capacity room⟩, rfl, rfl⟩) (fun s s' inv next => ?_) fun s inv => ?_
  · obtain receiving | published := inv
    · exact receiving.step ordered apart next
    · exact absurd next published.no_step
  · obtain receiving | published := inv
    · obtain ⟨done, punctual⟩ := receiving.punctual
      obtain ⟨f, next⟩ := punctual.progress ordered
      exact .inr ⟨_, .feed next⟩
    · exact .inl published

end ReceiverTask

/-- A receiver takes what is queued at once and then, each at its time, the messages of the longest beginning of
the schedule in which each comes less than a window after the one before. Reception ends when the sending side
hangs up, if that is before there has been quiet, and otherwise when there has been quiet. This is so for every
capacity and in whatever order the receiver and those who send go on, and a task that receives hands over this
record at this time if somebody waits for it, and else is over at this time all the same. -/
theorem drained_until_quiet (window : Nat) (queued : List Message) (sends : List (Nat × Message))
    (close : Option Nat) (ordered : (sends.map Prod.fst ++ close.toList).Pairwise (· ≤ ·))
    (apart : Apart window 0 (sends.map Prod.fst ++ close.toList)) :
    ∃ taken, taken <+: sends ∧ Brisk window 0 (taken.map Prod.fst) ∧
      (∀ other, other <+: sends → Brisk window 0 (other.map Prod.fst) → other <+: taken) ∧
      let record := queued ++ taken.map Prod.snd
      let ended := endsAt window 0 sends taken close
      ∀ capacity, 0 < capacity →
        Reception.drain capacity window queued sends close = (record, ended) ∧
        Inevitable Feed.Step
          (fun f => f.reception.ended = some ended ∧ f.reception.record = record ∧
            f.takes = queued.map (0, ·) ++ taken)
          (.begin capacity window queued sends close) ∧
        ∀ awaited, Inevitable ReceiverTask.Step
          (fun s => s.finished = some ended ∧ s.done.value = if s.done.awaited then some record else none)
          { feed := .begin capacity window queued sends close, done := { awaited } } := by
  refine ⟨prompt window 0 sends, prompt_isPrefix, brisk_prompt, fun _ => isPrefix_prompt, ?_⟩
  intro record ended capacity room
  refine ⟨Reception.drain_eq room ordered, (Feed.drained_inevitable room ordered apart).mono fun f drained => ?_,
    fun awaited => (ReceiverTask.published_inevitable room ordered apart awaited).mono fun s published => ?_⟩
  · exact ⟨drained.ended.trans (congrArg some drained.now_eq), drained.record_eq, drained.takes_eq⟩
  · refine ⟨published.finished.trans (congrArg some published.drained.now_eq), ?_⟩
    rw [published.value_eq, published.drained.record_eq]

/-- There is room for one message, the last one is late, and nobody waits for the record. -/
theorem drained_until_quiet_for_nobody :
    let sends := [(3, Message.mk "b"), (4, ⟨"c"⟩), (20, ⟨"d"⟩)]
    let record := [Message.mk "a", ⟨"b"⟩, ⟨"c"⟩]
    Reception.drain 1 5 [⟨"a"⟩] sends (some 30) = (record, 9) ∧
    Inevitable ReceiverTask.Step
      (fun s => s.finished = some 9 ∧ s.done.value = if s.done.awaited then some record else none)
      { feed := .begin 1 5 [⟨"a"⟩] sends (some 30), done := { awaited := false } } := by
  intro sends record
  obtain ⟨taken, -, -, -, all⟩ :=
    drained_until_quiet 5 [⟨"a"⟩] sends (some 30) (by decide) (apart_of_isChain (by decide))
  obtain ⟨drained, -, published⟩ := all 1 (by decide)
  have result : Reception.drain 1 5 [⟨"a"⟩] sends (some 30) = (record, 9) := by decide
  obtain ⟨same, ended⟩ := Prod.mk.inj (result.symm.trans drained)
  refine ⟨result, ?_⟩
  rw [same, ended]
  exact published false

end BrokerTrial
