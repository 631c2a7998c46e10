import Mathlib
import BrokerTrial.Proofs.Inbox
import BrokerTrial.Trial.Exchange

/-!
# Acknowledged deliveries

A request that is answered with success puts its message into the record, in the order of the answers, and
no other request puts anything there. Nothing is acknowledged once reception has ended.
-/

namespace BrokerTrial

variable {r : Reception} {posts : List Delivery}

namespace Reception

/-! ### What a reception keeps -/

/-- What was acknowledged has been taken or is queued; once reception has ended all of it has been taken. -/
structure Sound (posts : List Delivery) (r : Reception) : Prop where
  consistent : r.inbox.Consistent posts
  taken : r.inbox.admissions.map Prod.snd = r.record ++ r.inbox.queue
  attended_eq : r.inbox.attended = r.ended.isNone
  early : ∀ x ∈ r.inbox.admissions, x.1 ≤ r.inbox.now
  finished : ∀ time, r.ended = some time → r.inbox.queue = [] ∧ ∀ x ∈ r.inbox.admissions, x.1 ≤ time

/-- What the receiver finds when it looks: the end, a message, long enough a quiet, or nothing yet. -/
theorem listen_cases (r : Reception) :
    r.listen = r ∨
    (r.ended = none ∧ ∃ m inbox, r.inbox.receive = some (m, inbox) ∧
      r.listen = { r with inbox, record := r.record ++ [m], heard := r.inbox.now }) ∨
    (r.ended = none ∧ r.inbox.receive = none ∧ r.quiet ≤ r.inbox.now ∧ r.listen = r.stop) := by
  unfold listen
  split
  · exact Or.inl rfl
  · rename_i m inbox live some
    exact Or.inr (Or.inl ⟨live, m, inbox, some, rfl⟩)
  · rename_i live none
    split
    · rename_i late
      exact Or.inr (Or.inr ⟨live, none, late, rfl⟩)
    · exact Or.inl rfl

theorem run_inbox (r : Reception) (events : List Inbox.Event) :
    r.run (events.map .inbox) = { r with inbox := r.inbox.run events } := by
  induction events generalizing r with
  | nil => rfl
  | cons e rest ih => exact ih (r.step (.inbox e))

namespace Sound

theorem inbox {d? : Option Delivery} {b : Inbox} (h : Sound posts r) (c : r.inbox.Change d? b) :
    Sound (posts ++ d?.toList) { r with inbox := b } := by
  obtain ⟨new, queue, admissions, unattended⟩ := c.admits
  refine ⟨h.consistent.step c, ?_, c.attended_eq.trans h.attended_eq, ?_, ?_⟩
  · rw [admissions, queue, List.map_append, h.taken, List.map_map, ← List.append_assoc]
    exact congrArg (r.record ++ r.inbox.queue ++ ·) (List.map_id new)
  · intro x member
    rw [admissions] at member
    rcases List.mem_append.mp member with old | fresh
    · exact Nat.le_trans (h.early x old) c.now_le
    · obtain ⟨m, -, rfl⟩ := List.mem_map.mp fresh
      exact c.now_le
  · intro time ended
    have left : r.inbox.attended = false := by rw [h.attended_eq, ended]; rfl
    obtain ⟨empty, before⟩ := h.finished time ended
    rw [unattended left] at admissions queue
    exact ⟨by rw [queue, empty]; rfl, fun x member => before x (by simpa [admissions] using member)⟩

theorem listen (h : Sound posts r) : Sound posts r.listen := by
  obtain same | ⟨live, m, b, received, same⟩ | ⟨live, none, -, same⟩ := r.listen_cases
  · rw [same]
    exact h
  · rw [same]
    have consistent := h.consistent.receive received
    obtain ⟨queue, filled, cases⟩ := Inbox.receive_cases received
    have kept : b.queue = queue ∧ b.admissions = r.inbox.admissions ∧
        b.attended = r.inbox.attended ∧ b.now = r.inbox.now := by
      obtain ⟨-, rfl⟩ | ⟨w, waiting, -, rfl⟩ := cases
      · exact ⟨rfl, rfl, rfl, rfl⟩
      · exact ⟨rfl, rfl, rfl, rfl⟩
    obtain ⟨left, admissions, attended, now⟩ := kept
    refine ⟨consistent, ?_, attended.trans h.attended_eq, ?_, ?_⟩
    · rw [admissions, h.taken, filled, left]
      simp
    · rw [admissions, now]
      exact h.early
    · intro time ended
      rw [live] at ended
      cases ended
  · rw [same]
    have empty := Inbox.receive_eq_none none
    refine ⟨h.consistent.leave, ?_, rfl, h.early, ?_⟩
    · have taken := h.taken
      rw [empty] at taken
      exact taken
    · intro time ended
      cases ended
      exact ⟨rfl, h.early⟩

theorem step (h : Sound posts r) (e : Event) : Sound (posts ++ e.delivery?.toList) (r.step e) := by
  cases e with
  | inbox e => exact h.inbox (Inbox.step_change e)
  | listen => simpa [Event.delivery?, Reception.step] using h.listen

theorem run (h : Sound posts r) (events : List Event) :
    Sound (posts ++ events.filterMap Event.delivery?) (r.run events) := by
  induction events generalizing posts r with
  | nil => simpa [Reception.run] using h
  | cons e rest ih =>
    have rest := ih (h.step e)
    rw [List.append_assoc] at rest
    cases came : e.delivery? with
    | none => simpa [came, Reception.run] using rest
    | some d => simpa [came, Reception.run] using rest

/-- Nothing is taken before the receiver listens. -/
theorem begin {capacity patience now : Nat} {b : Inbox} (window : Nat)
    (before : ({ capacity, patience, now } : Inbox).Leads posts b) : Sound posts (begin b window) := by
  obtain ⟨events, rfl, rfl⟩ := before
  have start : Sound [] (Reception.begin { capacity, patience, now } window) :=
    ⟨⟨rfl, List.Perm.refl _, by simp [Reception.begin], by simp [Reception.begin]⟩, rfl, rfl,
      by simp [Reception.begin, Inbox.admissions], fun time ended => by cases ended⟩
  obtain ⟨consistent, taken, attended_eq, early, finished⟩ := start.run (events.map .inbox)
  simp only [run_inbox, List.nil_append, List.filterMap_map] at consistent taken attended_eq early finished
  exact ⟨consistent, taken, attended_eq, early, finished⟩

end Sound

/-! ### Everything that is done in a reception is a run -/

/-- Events lead from one reception to another, and they bring these requests. -/
def Leads (r : Reception) (posts : List Delivery) (r' : Reception) : Prop :=
  ∃ events, r.run events = r' ∧ events.filterMap Event.delivery? = posts

theorem run_append (r : Reception) (first second : List Event) :
    r.run (first ++ second) = (r.run first).run second := by
  induction first generalizing r with
  | nil => rfl
  | cons e rest ih => exact ih (r.step e)

namespace Leads

variable {first second : List Delivery} {r₁ r₂ r₃ : Reception}

theorem refl (r : Reception) : r.Leads [] r := ⟨[], rfl, rfl⟩

theorem trans (h : r₁.Leads first r₂) (h' : r₂.Leads second r₃) : r₁.Leads (first ++ second) r₃ := by
  obtain ⟨events, rfl, rfl⟩ := h
  obtain ⟨more, rfl, rfl⟩ := h'
  exact ⟨events ++ more, run_append .., List.filterMap_append⟩

theorem inbox {b : Inbox} (h : r.inbox.Leads posts b) : r.Leads posts { r with inbox := b } := by
  obtain ⟨events, rfl, rfl⟩ := h
  exact ⟨events.map .inbox, run_inbox .., List.filterMap_map⟩

theorem listen (r : Reception) : r.Leads [] r.listen := ⟨[.listen], rfl, rfl⟩

theorem take (r : Reception) : r.Leads [] r.take :=
  (listen r).trans (inbox (Inbox.Leads.resumeAll ..))

theorem settle (r : Reception) : r.Leads [] r.settle := by
  have takes (n : Nat) (r : Reception) : r.Leads [] (settle.go n r) := by
    induction n generalizing r with
    | zero => exact refl r
    | succ n ih => exact (take r).trans (ih r.take)
  exact takes _ r

theorem advance (r : Reception) (time : Nat) : r.Leads [] (r.advance time) :=
  inbox (Inbox.Leads.advance ..)

theorem pass (r : Reception) (time : Nat) : r.Leads [] (r.pass time) := by
  unfold Reception.pass
  dsimp only
  split
  · exact (((settle r).trans (advance ..)).trans (listen _)).trans (advance ..)
  · exact (settle r).trans (advance ..)

theorem post (r : Reception) (d : Delivery) : r.Leads [d] (r.post d) := inbox (Inbox.Leads.post ..)

theorem postAll (r : Reception) (arrivals : List (Nat × Delivery)) :
    r.Leads (arrivals.map Prod.snd) (r.postAll arrivals) := by
  induction arrivals generalizing r with
  | nil => exact refl r
  | cons arrival rest ih =>
    obtain ⟨time, d⟩ := arrival
    exact ((pass r (max r.inbox.now time)).trans (post _ d)).trans (ih _)

end Leads

/-! ### The clock -/

theorem listen_now : r.listen.inbox.now = r.inbox.now := by
  obtain same | ⟨-, m, b, received, same⟩ | ⟨-, -, -, same⟩ := r.listen_cases
  · rw [same]
  · rw [same]
    obtain ⟨queue, -, ⟨-, rfl⟩ | ⟨w, waiting, -, rfl⟩⟩ := Inbox.receive_cases received
    · rfl
    · rfl
  · rw [same]
    rfl

theorem settle_now : r.settle.inbox.now = r.inbox.now := by
  have takes (n : Nat) (r : Reception) : (settle.go n r).inbox.now = r.inbox.now := by
    induction n generalizing r with
    | zero => rfl
    | succ n ih => exact (ih r.take).trans ((Inbox.resumeAll_now _).trans listen_now)
  exact takes _ r

theorem pass_now {time : Nat} (now_le : r.inbox.now ≤ time) : (r.pass time).inbox.now = time := by
  have settled : r.settle.inbox.now ≤ time := Nat.le_trans (Nat.le_of_eq settle_now) now_le
  unfold pass
  dsimp only
  split
  · rename_i quiet
    refine Inbox.advance_now ?_
    rw [listen_now]
    exact Inbox.advance_now_le settled quiet.2
  · exact Inbox.advance_now settled

/-! ### After the end -/

/-- What an event leaves as it is once reception has ended. -/
structure Lasting (r r' : Reception) : Prop where
  record_eq : r'.record = r.record
  ended_eq : r'.ended = r.ended
  quiet_eq : r'.quiet = r.quiet
  attended_eq : r'.inbox.attended = r.inbox.attended
  acknowledged_eq : r'.inbox.acknowledged = r.inbox.acknowledged

theorem step_lasting {time : Nat} (ended : r.ended = some time) (left : r.inbox.attended = false) (e : Event) :
    r.Lasting (r.step e) := by
  cases e with
  | inbox e =>
    have change := Inbox.step_change (b := r.inbox) e
    exact ⟨rfl, rfl, rfl, change.attended_eq, change.acknowledged_eq left⟩
  | listen =>
    obtain same | ⟨live, -⟩ | ⟨live, -⟩ := r.listen_cases
    · rw [step, same]
      exact ⟨rfl, rfl, rfl, rfl, rfl⟩
    · rw [ended] at live
      cases live
    · rw [ended] at live
      cases live

theorem run_lasting {time : Nat} (ended : r.ended = some time) (left : r.inbox.attended = false)
    (events : List Event) : r.Lasting (r.run events) := by
  induction events generalizing r with
  | nil => exact ⟨rfl, rfl, rfl, rfl, rfl⟩
  | cons e rest ih =>
    have step := step_lasting ended left e
    have run := ih (step.ended_eq.trans ended) (step.attended_eq.trans left)
    exact ⟨run.record_eq.trans step.record_eq, run.ended_eq.trans step.ended_eq,
      run.quiet_eq.trans step.quiet_eq, run.attended_eq.trans step.attended_eq,
      run.acknowledged_eq.trans step.acknowledged_eq⟩

theorem post_left {d : Delivery} {m : Message} (left : r.inbox.attended = false)
    (holds : d.message = .ok m) :
    r.post d =
      { r with inbox := { r.inbox with
          arrived := r.inbox.arrived + 1
          responses := r.inbox.responses ++ [⟨r.inbox.arrived, r.inbox.now, .unavailable⟩] } } := by
  simp [post, Inbox.post, holds, Inbox.offer, left, Inbox.respond]

/-! ### The record -/

/-- A reception to which these requests came. No request was answered twice. The messages of those that
were answered with success, in the order of the answers, are those taken and then those still queued. Once
reception has ended, at a time that none of these answers exceeds, the record is all of them and stays so,
whatever comes; a message that comes then is turned away and changes nothing. -/
structure Faithful (posts : List Delivery) (r : Reception) : Prop where
  once : (r.inbox.responses.map Response.ticket).Nodup
  recorded : (r.record ++ r.inbox.queue).map some =
    r.inbox.acknowledged.map fun x => posts[x.ticket]?.bind (·.message.toOption)
  complete : ∀ time, r.ended = some time →
    r.inbox.queue = [] ∧ ∀ x ∈ r.inbox.acknowledged, x.time ≤ time
  lasting : ∀ time, r.ended = some time → ∀ events,
    (r.run events).record = r.record ∧ (r.run events).ended = some time ∧
      (r.run events).inbox.acknowledged = r.inbox.acknowledged
  late : ∀ time, r.ended = some time → ∀ d m, d.path = Delivery.resultPath → d.method = "POST" →
    d.body.size ≤ Delivery.bodyLimit → Message.ofBytes d.body = .ok m →
      ∃ a : Answer, a.status = 503 ∧
        r.post d =
          { r with inbox := { r.inbox with
              arrived := r.inbox.arrived + 1
              responses := r.inbox.responses ++ [⟨r.inbox.arrived, r.inbox.now, a⟩] } }

theorem Sound.faithful (h : Sound posts r) : Faithful posts r := by
  have left (time : Nat) (ended : r.ended = some time) : r.inbox.attended = false := by
    rw [h.attended_eq, ended]
    rfl
  refine ⟨h.consistent.nodup, ?_, fun time ended => ⟨(h.finished time ended).1, ?_⟩,
    fun time ended events => ?_, ?_⟩
  · rw [← h.taken]
    exact h.consistent.admissions_eq
  · intro x success
    obtain ⟨m, -, admitted⟩ := Inbox.mem_admissions_of_acknowledged success
    exact (h.finished time ended).2 _ admitted
  · have lasting := run_lasting ended (left time ended) events
    exact ⟨lasting.record_eq, lasting.ended_eq.trans ended, lasting.acknowledged_eq⟩
  · intro time ended d m path method size decoded
    exact ⟨.unavailable, rfl, post_left (left time ended) (Delivery.message_ok path method size decoded)⟩

end Reception

namespace Trial

variable {σ : Type} (t : Trial) (b : Brokers σ) (l : Launch σ)

theorem opening_sound :
    (t.opening b l).Sound (((t.arrivals b l).takeWhile (·.1 < l.time)).map Prod.snd) := by
  have served := Inbox.Leads.postAll (t.openInbox l.sent.length l.opened)
    ((t.arrivals b l).takeWhile (·.1 < l.time))
  have launched := served.trans (Inbox.Leads.advance _ l.time)
  rw [List.append_nil] at launched
  exact .begin _ launched

theorem reception_sound : (t.reception b l).Sound ((t.arrivals b l).map Prod.snd) := by
  obtain ⟨events, same, came⟩ := (Reception.Leads.postAll (t.opening b l)
    ((t.arrivals b l).dropWhile (·.1 < l.time))).trans (Reception.Leads.pass _ (t.limit b l))
  have sound := (t.opening_sound b l).run events
  rw [same, came, List.append_nil, ← List.map_append, List.takeWhile_append_dropWhile] at sound
  exact sound

end Trial

/-- An acknowledged message is recorded once, whatever happens in whatever order while a collector of any
capacity and patience serves, before its receiver listens and after; and so it is in every trial. -/
theorem acknowledged_recorded_once :
    (∀ (capacity patience now window : Nat) (early : List Inbox.Event) (events : List Reception.Event),
      let opened := ({ capacity, patience, now } : Inbox).run early
      ((Reception.begin opened window).run events).Faithful
        (early.filterMap Inbox.Event.delivery? ++ events.filterMap Reception.Event.delivery?)) ∧
    ∀ {σ : Type} (t : Trial) (b : Brokers σ) (l : Launch σ),
      (t.reception b l).Faithful ((t.arrivals b l).map Prod.snd) := by
  refine ⟨fun capacity patience now window early events => ?_, fun t b l => (t.reception_sound b l).faithful⟩
  have start : ({ capacity, patience, now } : Inbox).Leads (early.filterMap Inbox.Event.delivery?)
      (({ capacity, patience, now } : Inbox).run early) := ⟨early, rfl, rfl⟩
  exact ((Reception.Sound.begin window start).run events).faithful

/-- The second message is given room in time and looks again too late. -/
theorem acknowledged_recorded_once_overdue :
    let a : Delivery := { body := (Message.mk "a").json.toUTF8 }
    let b : Delivery := { body := (Message.mk "b").json.toUTF8 }
    let events : List Reception.Event :=
      [.inbox (.post b), .inbox (.tick 4), .listen, .inbox (.tick 9), .inbox (.resume 1), .listen,
        .inbox (.tick 20), .listen, .inbox (.post a)]
    let r := (Reception.begin (({ capacity := 1, patience := 5 } : Inbox).run [.post a]) 10).run events
    r.Faithful [a, b, a] ∧ r.record = [⟨"a"⟩, ⟨"b"⟩] ∧ r.ended = some 20 ∧
      r.inbox.responses.map (·.answer.status) = [200, 200, 503] := by
  intro a b events r
  refine ⟨acknowledged_recorded_once.1 1 5 0 10 [.post a] events, ?_⟩
  decide +kernel +revert

end BrokerTrial
