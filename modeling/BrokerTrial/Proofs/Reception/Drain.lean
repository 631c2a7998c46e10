import Mathlib
import BrokerTrial.Proofs.Reception.Quiescence

/-!
# Draining a queue

What a receiver finds in its queue it takes at once. After that it takes the messages that come until there has
been no other for a whole window.
-/

namespace BrokerTrial

/-! ### Schedules -/

section

variable {window heard : Nat} {sends taken : List (Nat × Message)}

/-- Each of these times is less than a window after the one before it, the first one after the beginning. -/
def Brisk (window heard : Nat) (times : List Nat) : Prop :=
  (heard :: times).IsChain fun before time => time < before + window

/-- None of these times, if all before it are brisk, is exactly a window after the one before it. -/
def Apart (window heard : Nat) (times : List Nat) : Prop :=
  ∀ before time, before ++ [time] <+: times → Brisk window heard before → time ≠ before.getLastD heard + window

/-- The longest beginning of a schedule that is brisk. -/
def prompt (window : Nat) : (heard : Nat) → List (Nat × Message) → List (Nat × Message)
  | _, [] => []
  | heard, (time, m) :: rest => if time < heard + window then (time, m) :: prompt window time rest else []

/-- The time of the last of these messages, or of the beginning. -/
def lastTime (heard : Nat) (taken : List (Nat × Message)) : Nat := (taken.map Prod.fst).getLastD heard

@[simp] theorem lastTime_nil : lastTime heard [] = heard := rfl

@[simp] theorem lastTime_cons (x : Nat × Message) : lastTime heard (x :: taken) = lastTime x.1 taken :=
  List.getLastD_cons ..

@[simp] theorem lastTime_concat (x : Nat × Message) : lastTime heard (taken ++ [x]) = x.1 := by
  simp [lastTime]

@[simp] theorem brisk_nil : Brisk window heard [] := List.isChain_singleton heard

@[simp] theorem brisk_cons {time : Nat} {times : List Nat} :
    Brisk window heard (time :: times) ↔ time < heard + window ∧ Brisk window time times :=
  List.isChain_cons_cons

theorem apart_of_isChain {times : List Nat}
    (chain : (heard :: times).IsChain fun before time => time ≠ before + window) : Apart window heard times := by
  intro before time start brisk
  induction before generalizing heard times with
  | nil =>
    obtain ⟨rest, rfl⟩ := start
    exact (List.isChain_cons_cons.mp chain).1
  | cons t before ih =>
    obtain ⟨rest, rfl⟩ := start
    rw [List.getLastD_cons]
    exact ih (List.isChain_cons_cons.mp chain).2 (List.prefix_append ..) (brisk_cons.mp brisk).2

theorem brisk_concat {x : Nat × Message} : Brisk window heard ((taken ++ [x]).map Prod.fst) ↔
    Brisk window heard (taken.map Prod.fst) ∧ x.1 < lastTime heard taken + window := by
  induction taken generalizing heard with
  | nil => simp
  | cons y rest ih => simp [and_assoc, ← ih]

theorem prompt_isPrefix : prompt window heard sends <+: sends := by
  induction sends generalizing heard with
  | nil => exact List.prefix_refl []
  | cons x rest ih =>
    rw [prompt]
    split
    · exact List.prefix_cons_inj x |>.mpr ih
    · exact List.nil_prefix

theorem brisk_prompt : Brisk window heard ((prompt window heard sends).map Prod.fst) := by
  induction sends generalizing heard with
  | nil => exact brisk_nil
  | cons x rest ih =>
    rw [prompt]
    split
    · rename_i soon
      exact brisk_cons.mpr ⟨soon, ih⟩
    · exact brisk_nil

theorem isPrefix_prompt (start : taken <+: sends) (brisk : Brisk window heard (taken.map Prod.fst)) :
    taken <+: prompt window heard sends := by
  induction taken generalizing heard sends with
  | nil => exact List.nil_prefix
  | cons x taken ih =>
    obtain ⟨rest, rfl⟩ := start
    obtain ⟨soon, brisk⟩ := brisk_cons.mp brisk
    rw [List.cons_append, prompt, if_pos soon]
    exact List.prefix_cons_inj x |>.mpr (ih (List.prefix_append ..) brisk)

/-- A brisk beginning is the longest one if what is next does not come within a window. -/
theorem prompt_append {rest : List (Nat × Message)} (brisk : Brisk window heard (taken.map Prod.fst))
    (late : ∀ x ∈ rest.head?, lastTime heard taken + window ≤ x.1) :
    prompt window heard (taken ++ rest) = taken := by
  induction taken generalizing heard with
  | nil =>
    cases rest with
    | nil => rfl
    | cons x rest => exact if_neg (Nat.not_lt.mpr (late x rfl))
  | cons x taken ih =>
    obtain ⟨soon, brisk⟩ := brisk_cons.mp brisk
    rw [List.cons_append, prompt, if_pos soon, ih brisk (by simpa using late)]

/-- When a reception is over that takes these messages of a schedule: when the sending side hangs up, if all
have been taken and there has been no quiet before, and otherwise when there has been quiet. -/
def endsAt (window heard : Nat) (sends taken : List (Nat × Message)) : (close : Option Nat) → Nat
  | some time =>
    if taken = sends ∧ time < lastTime heard taken + window then time else lastTime heard taken + window
  | none => lastTime heard taken + window

theorem endsAt_cons {close : Option Nat} (x : Nat × Message) :
    endsAt window heard (x :: sends) (x :: taken) close = endsAt window x.1 sends taken close := by
  cases close <;> simp [endsAt]

end

namespace Reception

variable {r : Reception} {m : Message} {time : Nat}

/-! ### Taking what is queued -/

/-- A reception that goes on, and nobody waits for room. -/
structure Open (r : Reception) : Prop where
  going : r.ended = none
  attended : r.inbox.attended = true
  waiting : r.inbox.waiting = []
  admitted : r.inbox.admitted = []

/-- All that was queued has been taken. -/
def emptied (r : Reception) : Reception :=
  { r with
    inbox := { r.inbox with queue := [] }
    record := r.record ++ r.inbox.queue
    heard := r.lastHeard }

theorem Open.listen_eq {queue : List Message} (h : r.Open) (filled : r.inbox.queue = m :: queue) :
    r.listen =
      { r with inbox := { r.inbox with queue }, record := r.record ++ [m], heard := r.inbox.now } := by
  have received : r.inbox.receive = some (m, { r.inbox with queue }) := by
    simp only [Inbox.receive, filled, h.waiting]
  unfold listen
  rw [h.going, received]

theorem Open.settle_eq (h : r.Open) : r.settle = r.emptied := by
  have takes (queue : List Message) (r : Reception) (h : r.Open) (filled : r.inbox.queue = queue) :
      settle.go queue.length r = r.emptied := by
    induction queue generalizing r with
    | nil =>
      obtain ⟨inbox, window, heard, record, ended⟩ := r
      obtain ⟨capacity, patience, now, queue, waiting, admitted, attended, arrived, responses⟩ := inbox
      cases filled
      simp [settle.go, emptied, lastHeard]
    | cons m queue ih =>
      have taken : r.take =
          { r with inbox := { r.inbox with queue }, record := r.record ++ [m], heard := r.inbox.now } := by
        simp only [take, h.listen_eq filled, Inbox.proceed, h.admitted, Inbox.resumeAll, List.foldl_nil]
      rw [List.length_cons, settle.go, ih r.take (by rw [taken]; exact ⟨h.going, h.attended, h.waiting, h.admitted⟩)
        (by rw [taken]), taken]
      simp [emptied, lastHeard, filled]
  have settled := takes r.inbox.queue r h rfl
  rw [settle, h.waiting]
  exact settled

/-! ### The end -/

structure EndedWith (r : Reception) (record : List Message) (time : Nat) : Prop where
  ended : r.ended = some time
  left : r.inbox.attended = false
  record_eq : r.record = record

namespace EndedWith

variable {record : List Message} {r' : Reception}

theorem lasting {posts : List Delivery} (h : r.EndedWith record time) (leads : r.Leads posts r') :
    r'.EndedWith record time := by
  obtain ⟨events, rfl, -⟩ := leads
  have same := run_lasting h.ended h.left events
  exact ⟨same.ended_eq.trans h.ended, same.attended_eq.trans h.left, same.record_eq.trans h.record_eq⟩

theorem offer (h : r.EndedWith record time) (m : Message) : (r.offer m).EndedWith record time := by
  have same : r.inbox.offer m = { r.inbox with arrived := r.inbox.arrived + 1 }.respond r.inbox.arrived
      .unavailable := by
    simp [Inbox.offer, h.left]
  exact ⟨h.ended, by rw [Reception.offer, same]; exact h.left, h.record_eq⟩

theorem offerAll (h : r.EndedWith record time) (sends : List (Nat × Message)) :
    (r.offerAll sends).EndedWith record time := by
  induction sends generalizing r with
  | nil => exact h
  | cons x rest ih => exact ih ((h.lasting (Leads.pass ..)).offer x.2)

theorem hangUp (h : r.EndedWith record time) : r.hangUp.EndedWith record time := by
  have settled := h.lasting (Leads.settle r)
  unfold Reception.hangUp
  dsimp only
  rw [settled.ended]
  exact settled

end EndedWith

theorem Open.emptied (h : r.Open) : r.emptied.Open := ⟨h.going, h.attended, h.waiting, h.admitted⟩

theorem Open.pass_ended (h : r.Open) (punctual : r.inbox.now ≤ r.lastHeard + r.window)
    (past : r.lastHeard + r.window ≤ time) :
    (r.pass time).EndedWith (r.record ++ r.inbox.queue) (r.lastHeard + r.window) := by
  have stopped : (r.emptied.advance r.emptied.quiet).listen =
      stop { r.emptied with inbox := r.emptied.inbox.tick r.emptied.quiet } := by
    rw [advance_of_none h.emptied.waiting]
    exact listen_of_quiet h.going rfl (Nat.le_max_right ..)
  have ended : (stop { r.emptied with inbox := r.emptied.inbox.tick r.emptied.quiet }).EndedWith
      (r.record ++ r.inbox.queue) (r.lastHeard + r.window) :=
    ⟨congrArg some (Nat.max_eq_right punctual), rfl, rfl⟩
  unfold pass
  dsimp only
  rw [h.settle_eq, if_pos ⟨by rw [h.emptied.going]; rfl, past⟩, stopped]
  exact ended.lasting (Leads.advance ..)

theorem Open.pass_eq (h : r.Open) (loud : time < r.lastHeard + r.window) :
    r.pass time = { r.emptied with inbox := r.emptied.inbox.tick time } := by
  unfold pass
  dsimp only
  rw [h.settle_eq, if_neg fun past => Nat.not_lt.mpr past.2 loud, advance_of_none h.emptied.waiting]

theorem Open.offer_eq (h : r.Open) (room : r.inbox.queue.length < r.inbox.capacity) (m : Message) :
    r.offer m =
      { r with inbox := { r.inbox with
          arrived := r.inbox.arrived + 1
          queue := r.inbox.queue ++ [m]
          responses := r.inbox.responses ++ [⟨r.inbox.arrived, r.inbox.now, .accepted m⟩] } } := by
  simp [Reception.offer, Inbox.offer, h.attended, h.admitted, room, Inbox.respond]

/-- A message that comes before there has been quiet is the only one in the queue. -/
theorem Open.pass_offer (h : r.Open) (room : 0 < r.inbox.capacity) (now_le : r.inbox.now ≤ time)
    (loud : time < r.lastHeard + r.window) (m : Message) :
    ((r.pass time).offer m).Open ∧ ((r.pass time).offer m).inbox.queue = [m] ∧
      ((r.pass time).offer m).record = r.record ++ r.inbox.queue ∧
      ((r.pass time).offer m).inbox.now = time ∧ ((r.pass time).offer m).window = r.window ∧
      ((r.pass time).offer m).inbox.capacity = r.inbox.capacity := by
  have opened : Open { r.emptied with inbox := r.emptied.inbox.tick time } :=
    ⟨h.going, h.attended, h.waiting, h.admitted⟩
  rw [h.pass_eq loud, opened.offer_eq room]
  exact ⟨⟨h.going, h.attended, h.waiting, h.admitted⟩, rfl, rfl, Nat.max_eq_right now_le, rfl, rfl⟩

/-! ### A whole drain -/

/-- The sending side hangs up at a time, or the receiver waits for quiet. -/
def conclude (r : Reception) : (close : Option Nat) → Reception
  | some time => (r.pass (max r.inbox.now time)).hangUp
  | none => r.settle.pass r.settle.quiet

theorem EndedWith.conclude {record : List Message} (h : r.EndedWith record time) (close : Option Nat) :
    (r.conclude close).EndedWith record time := by
  cases close with
  | some c => exact (h.lasting (Leads.pass ..)).hangUp
  | none => exact (h.lasting (Leads.settle ..)).lasting (Leads.pass ..)

theorem Open.conclude {close : Option Nat} (h : r.Open) (punctual : r.inbox.now ≤ r.lastHeard + r.window)
    (close_le : ∀ time ∈ close, r.inbox.now ≤ time) :
    (r.conclude close).EndedWith (r.record ++ r.inbox.queue) (endsAt r.window r.lastHeard [] [] close) := by
  cases close with
  | none =>
    have ended := h.emptied.pass_ended punctual (Nat.le_refl _)
    rw [show r.emptied.record ++ r.emptied.inbox.queue = r.record ++ r.inbox.queue from List.append_nil _] at ended
    rw [Reception.conclude, h.settle_eq]
    exact ended
  | some time =>
    have now_le := close_le time rfl
    rw [Reception.conclude, Nat.max_eq_right now_le, endsAt]
    by_cases past : r.lastHeard + r.window ≤ time
    · rw [if_neg fun before => Nat.not_lt.mpr past before.2]
      exact (h.pass_ended punctual past).hangUp
    · have loud := Nat.not_le.mp past
      have opened : Open { r.emptied with inbox := r.emptied.inbox.tick time } :=
        ⟨h.going, h.attended, h.waiting, h.admitted⟩
      rw [if_pos ⟨rfl, loud⟩, h.pass_eq loud]
      unfold Reception.hangUp
      dsimp only
      rw [opened.settle_eq, opened.emptied.going]
      exact ⟨congrArg some (Nat.max_eq_right now_le), rfl, List.append_nil _⟩

/-- The messages that are drained are those that are queued and those that come promptly. -/
theorem Open.drained {sends : List (Nat × Message)} {close : Option Nat} (h : r.Open)
    (room : 0 < r.inbox.capacity) (punctual : r.inbox.now ≤ r.lastHeard + r.window)
    (ordered : (r.inbox.now :: (sends.map Prod.fst ++ close.toList)).Pairwise (· ≤ ·)) :
    ((r.offerAll sends).conclude close).EndedWith
      (r.record ++ r.inbox.queue ++ (prompt r.window r.lastHeard sends).map Prod.snd)
      (endsAt r.window r.lastHeard sends (prompt r.window r.lastHeard sends) close) := by
  induction sends generalizing r with
  | nil =>
    rw [prompt, List.map_nil, List.append_nil]
    exact h.conclude punctual fun time closes => (List.pairwise_cons.mp ordered).1 time (by simpa using closes)
  | cons x rest ih =>
    obtain ⟨time, m⟩ := x
    obtain ⟨after, ordered⟩ := List.pairwise_cons.mp ordered
    have now_le : r.inbox.now ≤ time := after time (List.mem_cons_self ..)
    rw [offerAll, Nat.max_eq_right now_le, prompt]
    by_cases past : r.lastHeard + r.window ≤ time
    · rw [if_neg (Nat.not_lt.mpr past), List.map_nil, List.append_nil]
      have ended := (((h.pass_ended punctual past).offer m).offerAll rest).conclude close
      cases close <;> simpa [endsAt] using ended
    · have loud := Nat.not_le.mp past
      obtain ⟨opened, queue, record, now, window, capacity⟩ := h.pass_offer room now_le loud m
      generalize (r.pass time).offer m = r' at opened queue record now window capacity ⊢
      have heard : r'.lastHeard = time := by rw [lastHeard, queue, if_neg (List.cons_ne_nil m []), now]
      have drained := ih opened (capacity ▸ room) (by rw [heard, now]; exact Nat.le_add_right ..)
        (now ▸ ordered)
      rw [queue, record, window, heard] at drained
      rw [if_pos loud, endsAt_cons, List.map_cons]
      simpa only [List.append_assoc, List.singleton_append] using drained

theorem drain_eq {capacity window : Nat} {queued : List Message} {sends : List (Nat × Message)}
    {close : Option Nat} (room : 0 < capacity)
    (ordered : (sends.map Prod.fst ++ close.toList).Pairwise (· ≤ ·)) :
    drain capacity window queued sends close =
      (queued ++ (prompt window 0 sends).map Prod.snd, endsAt window 0 sends (prompt window 0 sends) close) := by
  have start : (begin { capacity, patience := 0, queue := queued } window).lastHeard = 0 := ite_self _
  have opened : (begin { capacity, patience := 0, queue := queued } window).Open := ⟨rfl, rfl, rfl, rfl⟩
  have drained := opened.drained room (Nat.zero_le _)
    (List.pairwise_cons.mpr ⟨fun time _ => Nat.zero_le time, ordered⟩)
  rw [start] at drained
  have last : drain capacity window queued sends close =
      let last := ((begin { capacity, patience := 0, queue := queued } window).offerAll sends).conclude close
      (last.record, last.ended.getD last.inbox.now) := by
    cases close <;> rfl
  rw [last]
  dsimp only
  rw [drained.ended, drained.record_eq]
  rfl

end Reception

end BrokerTrial
