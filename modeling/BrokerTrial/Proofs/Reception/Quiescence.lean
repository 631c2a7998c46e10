import Mathlib
import BrokerTrial.Proofs.Reception.Acknowledgement

/-!
# Quiescence

While a reception lasts, its receiver takes every message when it comes. So the times at which messages
come tell when there has been quiet for a whole window, and what the record is then.
-/

namespace BrokerTrial

/-! ### Inboxes whose room is used -/

namespace Inbox

variable {b b' : Inbox} {d? : Option Delivery}

/-- The tickets of what was acknowledged, then of what waits, then the next one. -/
def line (b : Inbox) : List Nat :=
  b.acknowledged.map Response.ticket ++ b.waiting.map Waiting.ticket ++ [b.arrived]

/-- There is a receiver, a delivery waits only for a full queue, and room that is given is used at once. So
deliveries are acknowledged in the order in which they come. -/
structure Orderly (b : Inbox) : Prop where
  attended : b.attended = true
  admitted : b.admitted = []
  full : b.waiting ≠ [] → b.capacity ≤ b.queue.length
  ascending : b.line.Pairwise (· < ·)

theorem pairwise_concat_succ {xs : List Nat} {n : Nat} (h : (xs ++ [n]).Pairwise (· < ·)) :
    (xs ++ [n] ++ [n + 1]).Pairwise (· < ·) := by
  refine List.pairwise_append.mpr ⟨h, List.pairwise_singleton .., fun x member y last => ?_⟩
  rw [List.mem_singleton.mp last]
  rcases List.mem_append.mp member with before | here
  · exact Nat.lt_succ_of_lt ((List.pairwise_append.mp h).2.2 x before n (List.mem_singleton_self n))
  · exact Nat.lt_succ_of_le (Nat.le_of_eq (List.mem_singleton.mp here))

theorem Orderly.step (h : b.Orderly) (c : b.Change d? b') : b'.Orderly := by
  have next := pairwise_concat_succ h.ascending
  cases c with
  | still => exact h
  | later time => exact ⟨h.attended, h.admitted, h.full, h.ascending⟩
  | refused d a failed =>
    have status : ¬ a.status = 200 := by rw [Answer.status_eq_ok_iff, failed]; simp
    refine ⟨h.attended, h.admitted, h.full, next.sublist ?_⟩
    simp [line, acknowledged, status]
  | queued d m holds attended room =>
    have none : b.waiting = [] := by
      refine Decidable.byContradiction fun some => ?_
      rw [h.admitted] at room
      exact absurd room (Nat.not_lt.mpr (h.full some))
    refine ⟨h.attended, h.admitted, fun some => absurd none some, ?_⟩
    simpa [line, acknowledged, Answer.status, none] using next
  | waits d m holds attended full =>
    rw [h.admitted] at full
    refine ⟨h.attended, h.admitted, fun _ => full, ?_⟩
    simpa [line, acknowledged] using next
  | used front back w held attended => simp [h.admitted] at held
  | unused front back w held left => simp [h.admitted] at held
  | turnedAway front back w held reason =>
    refine ⟨h.attended, h.admitted, fun _ => h.full (by simp [held]), h.ascending.sublist ?_⟩
    simp [line, acknowledged, Answer.status, held]

theorem Orderly.leads {posts : List Delivery} (h : b.Orderly) (leads : b.Leads posts b') : b'.Orderly := by
  obtain ⟨events, rfl, -⟩ := leads
  induction events generalizing b with
  | nil => exact h
  | cons e rest ih => exact ih (h.step (step_change e))

theorem advance_of_none (none : b.waiting = []) (time : Nat) : b.advance time = b.tick time := by
  simp [advance, none]

theorem admissions_eq_filterMap (b : Inbox) :
    b.admissions = b.acknowledged.filterMap fun x => x.answer.message?.map (x.time, ·) := by
  unfold admissions acknowledged
  rw [List.filterMap_filter]
  congr 1
  funext x
  cases success : x.answer.message? with
  | none => simp
  | some m =>
    have status : x.answer.status = 200 := by rw [Answer.status_eq_ok_iff, success]; rfl
    simp [status]

end Inbox

namespace Reception

variable {r r' : Reception} {m : Message}

/-! ### Taking all there is -/

/-- A reception that goes on, whose receiver is not late. -/
structure Live (r : Reception) : Prop where
  going : r.ended = none
  orderly : r.inbox.Orderly
  room : 0 < r.inbox.capacity
  heard_le : r.heard ≤ r.inbox.now
  punctual : r.inbox.queue = [] → r.inbox.now ≤ r.quiet

/-- When which messages were put into the queue, or will be as soon as the receiver looks. -/
def due (r : Reception) : List (Nat × Message) :=
  r.inbox.admissions ++ r.inbox.waiting.map fun w => (r.inbox.now, w.message)

/-- When the last message was taken, or will be as soon as the receiver looks. -/
def lastHeard (r : Reception) : Nat := if r.inbox.queue = [] then r.heard else r.inbox.now

def pending (r : Reception) : Nat := r.inbox.queue.length + r.inbox.waiting.length

theorem Live.lastHeard_le (h : r.Live) : r.lastHeard ≤ r.inbox.now := by
  unfold lastHeard
  split
  · exact h.heard_le
  · exact Nat.le_refl _

theorem Live.waiting_eq_nil (h : r.Live) (empty : r.inbox.queue = []) : r.inbox.waiting = [] := by
  refine Decidable.byContradiction fun some => ?_
  have full := h.orderly.full some
  rw [empty] at full
  exact absurd h.room (Nat.not_lt.mpr full)

theorem Live.queue_ne_nil (h : r.Live) (some : 0 < r.pending) : r.inbox.queue ≠ [] := by
  intro empty
  simp [pending, empty, h.waiting_eq_nil empty] at some

/-- The receiver has taken some of what is pending, and nothing else happened. -/
structure Taken (r r' : Reception) : Prop where
  live : r'.Live
  due_eq : r'.due = r.due
  now_eq : r'.inbox.now = r.inbox.now
  window_eq : r'.window = r.window

theorem take_of_queue {queue : List Message} (h : r.Live) (filled : r.inbox.queue = m :: queue) :
    r.take =
      { r with
        record := r.record ++ [m]
        heard := r.inbox.now
        inbox := match r.inbox.waiting with
          | [] => { r.inbox with queue }
          | w :: waiting =>
            { r.inbox with
              queue := queue ++ [w.message], waiting
              responses := r.inbox.responses ++ [⟨w.ticket, r.inbox.now, .accepted w.message⟩] } } := by
  have going := h.going
  have attended := h.orderly.attended
  have admitted := h.orderly.admitted
  unfold take listen Inbox.receive
  rw [going, filled]
  cases waits : r.inbox.waiting with
  | nil => simp [Inbox.proceed, Inbox.resumeAll, admitted, waits]
  | cons w waiting =>
    simp [Inbox.proceed, Inbox.resumeAll, Inbox.resume, Inbox.respond, admitted, attended]

theorem Live.take (h : r.Live) (some : 0 < r.pending) :
    r.Taken r.take ∧ r.take.heard = r.inbox.now ∧ r.take.pending + 1 = r.pending := by
  obtain ⟨m, queue, filled⟩ := List.exists_cons_of_ne_nil (h.queue_ne_nil some)
  have ascending := h.orderly.ascending
  have full := h.orderly.full
  rw [take_of_queue h filled]
  cases waits : r.inbox.waiting with
  | nil =>
    have orderly : ({ r.inbox with queue } : Inbox).Orderly :=
      ⟨h.orderly.attended, h.orderly.admitted, fun some => absurd waits some, ascending⟩
    refine ⟨⟨⟨h.going, orderly, h.room, Nat.le_refl _, fun _ => Nat.le_add_right ..⟩, ?_, rfl, rfl⟩, rfl, ?_⟩
    · simp [due, waits, Inbox.admissions]
    · simp [pending, waits, filled]
  | cons w waiting =>
    simp only [Inbox.line, waits, List.map_cons] at ascending
    rw [filled] at full
    refine ⟨⟨⟨h.going, ⟨h.orderly.attended, h.orderly.admitted, fun _ => ?_, ?_⟩, h.room, Nat.le_refl _,
      fun _ => Nat.le_add_right ..⟩, ?_, rfl, rfl⟩, rfl, ?_⟩
    · simpa using full (by simp [waits])
    · simpa [Inbox.line, Inbox.acknowledged, Answer.status] using ascending
    · simp [due, waits, Inbox.admissions, Answer.message?]
    · simp [pending, waits, filled]
      omega

/-- Once it has looked often enough the receiver has taken all there is. -/
theorem Live.settle (h : r.Live) :
    r.Taken r.settle ∧ r.settle.inbox.queue = [] ∧ r.settle.inbox.waiting = [] ∧
      r.settle.heard = r.lastHeard := by
  have takes (n : Nat) (r : Reception) (h : r.Live) (all : r.pending = n) :
      r.Taken (settle.go n r) ∧ (settle.go n r).pending = 0 ∧ (settle.go n r).heard = r.lastHeard := by
    induction n generalizing r with
    | zero =>
      have empty : r.inbox.queue = [] := List.length_eq_zero_iff.mp (Nat.eq_zero_of_add_eq_zero_right all)
      exact ⟨⟨h, rfl, rfl, rfl⟩, all, by simp [settle.go, lastHeard, empty]⟩
    | succ n ih =>
      have some : 0 < r.pending := by omega
      obtain ⟨taken, heard, fewer⟩ := h.take some
      obtain ⟨later, none, last⟩ := ih r.take taken.live (by omega)
      refine ⟨⟨later.live, later.due_eq.trans taken.due_eq, later.now_eq.trans taken.now_eq,
        later.window_eq.trans taken.window_eq⟩, none, last.trans ?_⟩
      simp [lastHeard, h.queue_ne_nil some, heard, taken.now_eq]
  obtain ⟨taken, none, last⟩ := takes r.pending r h rfl
  have empty := Nat.add_eq_zero_iff.mp none
  exact ⟨taken, List.length_eq_zero_iff.mp empty.1, List.length_eq_zero_iff.mp empty.2, last⟩

/-! ### Time passes -/

theorem advance_of_none (none : r.inbox.waiting = []) (time : Nat) :
    r.advance time = { r with inbox := r.inbox.tick time } := by
  rw [advance, Inbox.advance_of_none none]

theorem listen_of_quiet (going : r.ended = none) (empty : r.inbox.queue = [])
    (late : r.quiet ≤ r.inbox.now) : r.listen = r.stop := by
  have none : r.inbox.receive = none := by
    unfold Inbox.receive
    rw [empty]
  unfold listen
  rw [going, none]
  exact if_pos late

/-- Reception ends when it has been quiet for a whole window, with all that was due. -/
theorem Live.pass_ended {time : Nat} (h : r.Live) (past : r.lastHeard + r.window ≤ time) :
    (r.pass time).ended = some (r.lastHeard + r.window) ∧ (r.pass time).inbox.attended = false ∧
      (r.pass time).quiet = r.lastHeard + r.window ∧ (r.pass time).inbox.admissions = r.due ∧
      ((r.pass time).inbox.acknowledged.map Response.ticket).Pairwise (· < ·) := by
  obtain ⟨⟨live, due_eq, now_eq, window_eq⟩, empty, none, heard⟩ := h.settle
  have quiet_eq : r.settle.quiet = r.lastHeard + r.window := by rw [quiet, heard, window_eq]
  have punctual := live.punctual empty
  have ascending := (List.pairwise_append.mp live.orderly.ascending).1
  have stopped : listen { r.settle with inbox := r.settle.inbox.tick r.settle.quiet } =
      stop { r.settle with inbox := r.settle.inbox.tick r.settle.quiet } :=
    listen_of_quiet live.going empty (Nat.le_max_right ..)
  have same : r.pass time =
      { r.settle with
        inbox := (r.settle.inbox.tick r.settle.quiet).leave.tick time
        ended := some (max r.settle.inbox.now r.settle.quiet) } := by
    unfold pass
    dsimp only
    rw [if_pos ⟨by rw [live.going]; rfl, by rw [quiet_eq]; exact past⟩, advance_of_none none, stopped]
    refine (advance_of_none ?_ time).trans rfl
    exact none
  rw [same, ← due_eq, Nat.max_eq_right punctual, quiet_eq]
  refine ⟨rfl, rfl, quiet_eq, ?_, ?_⟩
  · rw [due, none, List.map_nil, List.append_nil]
    rfl
  · rw [none, List.map_nil, List.append_nil] at ascending
    exact ascending

theorem Live.pass_live {time : Nat} (h : r.Live) (now_le : r.inbox.now ≤ time)
    (loud : time < r.lastHeard + r.window) :
    (r.pass time).Live ∧ (r.pass time).inbox.queue = [] ∧ (r.pass time).due = r.due ∧
      (r.pass time).inbox.now = time ∧ (r.pass time).heard = r.lastHeard ∧
      (r.pass time).window = r.window := by
  obtain ⟨⟨live, due_eq, now_eq, window_eq⟩, empty, none, heard⟩ := h.settle
  have quiet_eq : r.settle.quiet = r.lastHeard + r.window := by rw [quiet, heard, window_eq]
  have same : r.pass time = { r.settle with inbox := r.settle.inbox.tick time } := by
    unfold pass
    dsimp only
    rw [if_neg fun past => Nat.not_lt.mpr past.2 (by rw [quiet_eq]; exact loud), advance_of_none none]
  have now : (r.pass time).inbox.now = time := by
    rw [same]
    exact Nat.max_eq_right (by rw [now_eq]; exact now_le)
  have heard' : (r.pass time).heard = r.lastHeard := by rw [same, heard]
  have window' : (r.pass time).window = r.window := by rw [same, window_eq]
  refine ⟨⟨?_, ?_, ?_, ?_, fun _ => ?_⟩, ?_, ?_, now, heard', window'⟩
  · rw [same]
    exact live.going
  · rw [same]
    exact live.orderly.step (.later time)
  · rw [same]
    exact live.room
  · rw [now, heard']
    exact Nat.le_trans h.lastHeard_le now_le
  · rw [now, quiet, heard', window']
    exact Nat.le_of_lt loud
  · rw [same]
    exact empty
  · rw [same, ← due_eq]
    simp [due, none, Inbox.tick, Inbox.admissions]

/-! ### Messages come -/

theorem Live.post (h : r.Live) (empty : r.inbox.queue = []) (d : Delivery) :
    (r.post d).Live ∧ (r.post d).inbox.now = r.inbox.now ∧ (r.post d).window = r.window ∧
      (r.post d).due = r.due ++ (d.message.toOption.map (r.inbox.now, ·)).toList ∧
      (r.post d).lastHeard = if d.message.toOption.isSome then r.inbox.now else r.lastHeard := by
  have none := h.waiting_eq_nil empty
  have change := Inbox.post_change (b := r.inbox) (d := d)
  have orderly := h.orderly.step change
  have room : 0 < (r.inbox.post d).capacity := by
    rw [change.capacity_eq]
    exact h.room
  cases holds : d.message with
  | error a =>
    have failed := Delivery.message_error holds
    have same : r.inbox.post d = { r.inbox with arrived := r.inbox.arrived + 1 }.respond r.inbox.arrived a := by
      simp [Inbox.post, holds]
    refine ⟨⟨h.going, orderly, room, ?_, ?_⟩, ?_, rfl, ?_, ?_⟩
    all_goals simp only [Reception.post, same]
    · exact h.heard_le
    · exact h.punctual
    · rfl
    · simp [due, Inbox.respond, Inbox.admissions, failed, Except.toOption]
    · rfl
  | ok m =>
    have same : r.inbox.post d =
        { r.inbox with arrived := r.inbox.arrived + 1, queue := [m] }.respond r.inbox.arrived (.accepted m) := by
      simp [Inbox.post, Inbox.offer, Inbox.respond, holds, h.orderly.attended, h.orderly.admitted, empty,
        h.room]
    refine ⟨⟨h.going, orderly, room, ?_, ?_⟩, ?_, rfl, ?_, ?_⟩
    all_goals simp only [Reception.post, same]
    · exact h.heard_le
    · exact fun no => by cases no
    · rfl
    · simp [due, none, Inbox.respond, Inbox.admissions, Answer.message?, Except.toOption]
    · simp [lastHeard, Inbox.respond, Except.toOption]

/-! ### A whole schedule -/

/-- When it has been quiet for a whole window, if messages come at these times, in order. -/
def quietAfter (window : Nat) : (heard : Nat) → List Nat → Nat
  | heard, [] => heard + window
  | heard, time :: rest =>
    if heard + window ≤ time then heard + window else quietAfter window time rest

theorem quietAfter_of_le {window heard : Nat} {times : List Nat}
    (late : ∀ time ∈ times, heard + window ≤ time) : quietAfter window heard times = heard + window := by
  cases times with
  | nil => rfl
  | cons time rest => exact if_pos (late time (List.mem_cons_self ..))

/-- It is the first instant by which a window has passed since the beginning and since every message
that came before. -/
theorem quietAfter_isLeast (window : Nat) {heard : Nat} {times : List Nat}
    (sorted : (heard :: times).Pairwise (· ≤ ·)) :
    IsLeast {q | heard + window ≤ q ∧ ∀ time ∈ times, time < q → time + window ≤ q}
      (quietAfter window heard times) := by
  induction times generalizing heard with
  | nil => exact ⟨⟨Nat.le_refl _, fun time none => absurd none List.not_mem_nil⟩, fun q quiet => quiet.1⟩
  | cons time rest ih =>
    obtain ⟨after, ordered⟩ := List.pairwise_cons.mp sorted
    have next : heard ≤ time := after time (List.mem_cons_self ..)
    unfold quietAfter
    split
    · rename_i late
      refine ⟨⟨Nat.le_refl _, fun other member early => ?_⟩, fun q quiet => quiet.1⟩
      have no_earlier : time ≤ other := by
        rcases List.mem_cons.mp member with rfl | later
        · exact Nat.le_refl _
        · exact (List.pairwise_cons.mp ordered).1 other later
      omega
    · rename_i early
      obtain ⟨⟨passed, quiet⟩, least⟩ := ih ordered
      refine ⟨⟨by omega, fun other member before => ?_⟩, fun q other => least ⟨?_, ?_⟩⟩
      · rcases List.mem_cons.mp member with rfl | later
        · exact passed
        · exact quiet other later before
      · exact other.2 time (List.mem_cons_self ..) (by have := other.1; omega)
      · exact fun later member => other.2 later (List.mem_cons_of_mem _ member)

/-- The messages among requests, and when they come. -/
def messages (arrivals : List (Nat × Delivery)) : List (Nat × Message) :=
  arrivals.filterMap fun (time, d) => d.message.toOption.map (time, ·)

theorem messages_cons (time : Nat) (d : Delivery) (rest : List (Nat × Delivery)) :
    messages ((time, d) :: rest) = (d.message.toOption.map (time, ·)).toList ++ messages rest := by
  cases holds : d.message <;> simp [messages, holds, Except.toOption]

theorem messages_times_sublist (arrivals : List (Nat × Delivery)) :
    ((messages arrivals).map Prod.fst).Sublist (arrivals.map Prod.fst) := by
  induction arrivals with
  | nil => exact List.Sublist.refl _
  | cons arrival rest ih =>
    obtain ⟨time, d⟩ := arrival
    rw [messages_cons]
    cases d.message with
    | ok m => exact ih.cons_cons time
    | error a => exact ih.cons time

/-- A reception that is given up at a limit and had been quiet for a window at some instant, with what it
acknowledged, in the order in which it came. -/
structure Concluded (quiet limit : Nat) (admissions : List (Nat × Message)) (r : Reception) : Prop where
  quiet_eq : r.quiet = quiet
  ended_eq : r.ended = if quiet ≤ limit then some quiet else none
  admissions_eq : r.inbox.admissions = admissions
  ascending : (r.inbox.acknowledged.map Response.ticket).Pairwise (· < ·)

theorem Live.concluded_of_quiet {posts : List Delivery} {time limit : Nat} (h : r.Live)
    (past : r.lastHeard + r.window ≤ time) (le : time ≤ limit) (leads : (r.pass time).Leads posts r') :
    r'.Concluded (r.lastHeard + r.window) limit r.due := by
  obtain ⟨ended, left, quiet, admissions, ascending⟩ := h.pass_ended past
  obtain ⟨events, rfl, -⟩ := leads
  have lasting := run_lasting ended left events
  refine ⟨lasting.quiet_eq.trans quiet, ?_, ?_, ?_⟩
  · rw [if_pos (Nat.le_trans past le)]
    exact lasting.ended_eq.trans ended
  · rw [Inbox.admissions_eq_filterMap, lasting.acknowledged_eq, ← Inbox.admissions_eq_filterMap]
    exact admissions
  · rw [lasting.acknowledged_eq]
    exact ascending

theorem Live.concluded_of_loud {limit : Nat} (h : r.Live) (now_le : r.inbox.now ≤ limit)
    (loud : limit < r.lastHeard + r.window) :
    (r.pass limit).Concluded (r.lastHeard + r.window) limit r.due := by
  obtain ⟨live, empty, due_eq, -, heard_eq, window_eq⟩ := h.pass_live now_le loud
  have none := live.waiting_eq_nil empty
  have ascending := (List.pairwise_append.mp live.orderly.ascending).1
  refine ⟨?_, ?_, ?_, ?_⟩
  · rw [quiet, heard_eq, window_eq]
  · rw [if_neg (Nat.not_le.mpr loud)]
    exact live.going
  · rw [← due_eq, due, none, List.map_nil, List.append_nil]
  · rw [none, List.map_nil, List.append_nil] at ascending
    exact ascending

/-- How a reception comes out is settled by when messages come. -/
theorem Live.concluded {arrivals : List (Nat × Delivery)} {limit : Nat} (h : r.Live)
    (sorted : (r.inbox.now :: arrivals.map Prod.fst).Pairwise (· ≤ ·))
    (bounded : ∀ time ∈ r.inbox.now :: arrivals.map Prod.fst, time ≤ limit) :
    ((r.postAll arrivals).pass limit).Concluded
      (quietAfter r.window r.lastHeard ((messages arrivals).map Prod.fst)) limit
      (r.due ++ (messages arrivals).filter
        (·.1 < quietAfter r.window r.lastHeard ((messages arrivals).map Prod.fst))) := by
  induction arrivals generalizing r with
  | nil =>
    have now_le : r.inbox.now ≤ limit := bounded _ (List.mem_cons_self ..)
    rw [messages, List.filterMap_nil, List.map_nil, List.filter_nil, List.append_nil]
    by_cases past : r.lastHeard + r.window ≤ limit
    · exact h.concluded_of_quiet past (Nat.le_refl limit) (Leads.refl _)
    · exact h.concluded_of_loud now_le (Nat.not_le.mp past)
  | cons arrival rest ih =>
    obtain ⟨time, d⟩ := arrival
    obtain ⟨after, ordered⟩ := List.pairwise_cons.mp sorted
    have now_le : r.inbox.now ≤ time := after time (List.mem_cons_self ..)
    have times := messages_times_sublist ((time, d) :: rest)
    rw [postAll, Nat.max_eq_right now_le]
    by_cases past : r.lastHeard + r.window ≤ time
    · have leads := ((Leads.post (r.pass time) d).trans (Leads.postAll _ rest)).trans (Leads.pass _ limit)
      have concluded := h.concluded_of_quiet past (bounded time (by simp)) leads
      have late : ∀ x ∈ messages ((time, d) :: rest), r.lastHeard + r.window ≤ x.1 := fun x member => by
        rcases List.mem_cons.mp (times.subset (List.mem_map_of_mem member)) with here | there
        · rw [here]
          exact past
        · exact Nat.le_trans past ((List.pairwise_cons.mp ordered).1 x.1 there)
      have none : (messages ((time, d) :: rest)).filter (·.1 < r.lastHeard + r.window) = [] :=
        List.filter_eq_nil_iff.mpr fun x member => by simpa using late x member
      rw [quietAfter_of_le (by simpa using late), none, List.append_nil]
      exact concluded
    · have loud := Nat.not_le.mp past
      obtain ⟨live, empty, due_eq, now_eq, heard_eq, window_eq⟩ := h.pass_live now_le loud
      obtain ⟨posted, now_eq', window_eq', due_eq', heard_eq'⟩ := live.post empty d
      rw [now_eq] at now_eq' due_eq' heard_eq'
      have heard : (r.pass time).lastHeard = r.lastHeard := by simp [lastHeard, empty, heard_eq]
      have concluded := ih posted (by rw [now_eq']; exact ordered)
        (by rw [now_eq']; exact fun x member => bounded x (List.mem_cons_of_mem _ member))
      rw [window_eq', window_eq, due_eq', due_eq, heard_eq', heard, List.append_assoc] at concluded
      rw [messages_cons] at times ⊢
      generalize d.message.toOption = held at times concluded ⊢
      cases held with
      | none => exact concluded
      | some m =>
        -- the message comes before there is quiet, which is now counted from it
        have heard_le := h.lastHeard_le
        have passed : time + r.window ≤ quietAfter r.window time ((messages rest).map Prod.fst) :=
          (quietAfter_isLeast _ (ordered.sublist times)).1.1
        have before : time < quietAfter r.window time ((messages rest).map Prod.fst) := by omega
        simp only [Option.map_some, Option.toList_some, List.singleton_append, List.map_cons,
          quietAfter, if_neg past, Option.isSome_some, if_true] at concluded ⊢
        rw [List.filter_cons_of_pos (by simpa using before)]
        exact concluded

end Reception

end BrokerTrial
