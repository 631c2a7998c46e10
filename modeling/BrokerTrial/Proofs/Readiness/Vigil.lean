import Mathlib
import BrokerTrial.Proofs.Inevitable
import BrokerTrial.Proofs.Readiness.Course
import BrokerTrial.Readiness.Vigil

/-!
# How a wait ends

However those who are polled side by side take turns, each is polled by its own course, and the wait is over when
the last one is ready or at its end.
-/

namespace BrokerTrial

open Readiness (inTime inTime_iff inTime_of_le lastReady)

variable {node : Responder} {nodes : List Responder} {timeout interval now time : Nat} {p : Poller} {v v' : Vigil}

/-! ### One of those who are polled -/

namespace Poller

/-- The polls made so far were made when they were to begin. -/
structure Told (node : Responder) (interval now : Nat) (polls : List Nat) : Prop where
  begun : ∀ k < polls.length, polls[k]? = node.begins interval k
  past : ∀ time ∈ polls, time ≤ now

/-- A node has been polled as it should be up to now. -/
inductive Tracks (node : Responder) (interval now : Nat) : Poller → Prop
  | due {polls : List Nat} {time : Nat} (told : Told node interval now polls)
      (next : node.begins interval polls.length = some time) (ahead : now ≤ time) :
      Tracks node interval now ⟨node.nth, .due time, polls⟩
  | asked {polls : List Nat} {k : Nat} (told : Told node interval now polls) (count : polls.length = k + 1)
      (ahead : ∀ time ∈ node.answered interval k, now ≤ time) :
      Tracks node interval now ⟨node.nth, .asked (node.nth k).answer (node.answered interval k), polls⟩
  | ready {polls : List Nat} {k time : Nat} (told : Told node interval now polls) (count : polls.length = k + 1)
      (yes : (node.nth k).answer = .ready) (given : node.answered interval k = some time) (past : time ≤ now) :
      Tracks node interval now ⟨node.nth, .ready, polls⟩

/-- It falls whenever a poller goes on. -/
def rank (timeout : Nat) (p : Poller) : Nat :=
  match p.stage with
  | .due time => 2 * (timeout + 1 - time)
  | .asked _ (some time) => 2 * (timeout + 1 - time) - 1
  | .asked _ none | .ready => 0

theorem Told.concat {polls : List Nat} (h : Told node interval now polls)
    (next : node.begins interval polls.length = some now) : Told node interval now (polls ++ [now]) := by
  constructor
  · intro k bound
    rw [List.length_append, List.length_singleton] at bound
    rcases Nat.lt_or_ge k polls.length with old | new
    · rw [List.getElem?_append_left old]
      exact h.begun k old
    · obtain rfl : k = polls.length := by omega
      rw [List.getElem?_concat_length, next]
  · intro time member
    rcases List.mem_append.mp member with old | new
    · exact h.past time old
    · exact Nat.le_of_eq (List.mem_singleton.mp new)

theorem Told.exists_begins {polls : List Nat} {k : Nat} (h : Told node interval now polls)
    (made : k < polls.length) : ∃ time, node.begins interval k = some time ∧ time ≤ now := by
  refine ⟨polls[k], ?_, h.past _ (List.getElem_mem made)⟩
  rw [← h.begun k made, List.getElem?_eq_getElem made]

theorem Told.later {polls : List Nat} (h : Told node interval now polls) (le : now ≤ time) :
    Told node interval time polls :=
  ⟨h.begun, fun before member => Nat.le_trans (h.past before member) le⟩

namespace Tracks

theorem goOn (h : p.Tracks node interval now) (positive : 0 < interval) (alarm : p.alarm = some time)
    (due : time ≤ now) (now_le : now ≤ timeout) :
    (p.goOn interval now).Tracks node interval now ∧ (p.goOn interval now).rank timeout < p.rank timeout := by
  cases h with
  | @due polls _ told next ahead =>
    cases alarm
    obtain rfl := Nat.le_antisymm ahead due
    have given : (node.nth polls.length).takes.map (now + ·) = node.answered interval polls.length := by
      rw [Responder.answered, next, Option.bind_some]
    have later : ∀ time ∈ node.answered interval polls.length, now ≤ time := by
      intro time told
      obtain ⟨asked, begun, le⟩ := Responder.begins_of_answered told
      rw [next] at begun
      cases begun
      exact le
    simp only [Poller.goOn, given]
    refine ⟨.asked (told.concat next) List.length_append later, ?_⟩
    cases answer : node.answered interval polls.length with
    | none =>
      simp only [rank]
      omega
    | some time =>
      have le := later time answer
      simp only [rank]
      omega
  | @asked polls k told count ahead =>
    have given : node.answered interval k = some time := alarm
    have now_eq : time = now := Nat.le_antisymm due (ahead time given)
    have next (other : (node.nth k).answer ≠ .ready) :
        node.begins interval polls.length = some (now + interval) := by
      rw [count, Responder.begins_succ, if_neg other, given, Option.map_some, now_eq]
    rw [given]
    cases answer : (node.nth k).answer with
    | ready =>
      refine ⟨.ready told count answer given due, ?_⟩
      simp only [Poller.goOn, rank]
      omega
    | notReady | failed =>
      refine ⟨.due told (next (by simp [answer])) (Nat.le_add_right ..), ?_⟩
      simp only [Poller.goOn, rank]
      omega
  | ready => cases alarm

theorem wait (h : p.Tracks node interval now) (le : now ≤ time) (early : ∀ alarm ∈ p.alarm, time ≤ alarm) :
    p.Tracks node interval time := by
  cases h with
  | due told next ahead => exact .due (told.later le) next (early _ rfl)
  | asked told count ahead => exact .asked (told.later le) count early
  | ready told count yes given past => exact .ready (told.later le) count yes given (Nat.le_trans past le)

/-- Whoever is not ready cannot be so before he can go on. -/
theorem le_of_unready (h : p.Tracks node interval now) (unready : p.stage ≠ .ready)
    (early : ∀ alarm ∈ p.alarm, time ≤ alarm) {first : Nat} (ready : node.ReadyAt interval first) :
    time ≤ first := by
  cases h with
  | due told next ahead => exact Nat.le_trans (early _ rfl) (Responder.le_of_readyAt next ready)
  | @asked polls k told count ahead =>
    obtain ⟨begun, next, -⟩ := told.exists_begins (k := k) (by omega)
    obtain ⟨-, given⟩ | ⟨later, again, le⟩ := Responder.readyAt_cases next ready
    · exact early first given
    · obtain ⟨-, answer, given, rfl⟩ := Responder.begins_succ_eq_some again
      exact Nat.le_trans (early answer given) (Nat.le_trans (Nat.le_add_right ..) le)
  | ready => exact absurd rfl unready

theorem readyAt (h : p.Tracks node interval now) (ready : p.stage = .ready) :
    ∃ first, node.ReadyAt interval first ∧ first ≤ now := by
  cases h with
  | due => cases ready
  | asked => cases ready
  | ready told count yes given past => exact ⟨_, ⟨_, yes, given⟩, past⟩

/-- If all that has happened was in time, and nothing that will happen is, then no poll is missing. -/
theorem polls_eq (h : p.Tracks node interval now) (positive : 0 < interval)
    (past : ∀ k, ∀ time ∈ node.begins interval k, time ≤ now → inTime timeout time = true)
    (beyond : ∀ time ∈ p.alarm, inTime timeout time = false) :
    p.polls = (node.course timeout interval).polls := by
  have whole (polls : List Nat) (told : Told node interval now polls)
      (last : ∀ time ∈ node.begins interval polls.length, inTime timeout time = false) :
      polls = (node.course timeout interval).polls := by
    refine List.ext_getElem? fun k => ?_
    rw [(node.course_followed timeout positive).polls k, Nat.zero_add]
    rcases Nat.lt_or_ge k polls.length with made | missing
    · obtain ⟨time, begun, le⟩ := told.exists_begins made
      rw [told.begun k made, begun, Option.filter_some, if_pos (past k time begun le)]
    · obtain ⟨n, rfl⟩ := Nat.exists_eq_add_of_le missing
      rw [List.getElem?_eq_none missing, Responder.filter_begins_eq_none last]
  cases h with
  | due told next ahead =>
    refine whole _ told fun time again => ?_
    rw [next] at again
    cases again
    exact beyond _ rfl
  | @asked polls k told count ahead =>
    refine whole _ told fun time again => ?_
    rw [count] at again
    obtain ⟨-, answer, given, rfl⟩ := Responder.begins_succ_eq_some again
    refine Bool.eq_false_iff.mpr fun early => ?_
    have soon := inTime_of_le early (Nat.le_add_right answer interval)
    rw [beyond answer given] at soon
    cases soon
  | @ready polls k first told count yes given le =>
    refine whole _ told fun time again => ?_
    rw [count] at again
    exact absurd yes (Responder.begins_succ_eq_some again).1

end Tracks

end Poller

namespace Vigil

/-! ### All of them -/

/-- Each node has been polled as it should be up to now, and the last of them is not ready before now. -/
structure Watches (watched : List (Responder × Poller)) (timeout interval : Nat) (v : Vigil) : Prop where
  timeout_eq : v.timeout = timeout
  interval_eq : v.interval = interval
  pollers_eq : v.pollers = watched.map Prod.snd
  tracks : ∀ x ∈ watched, x.2.Tracks x.1 interval v.now
  now_le : v.now ≤ timeout
  soon : (v.now : ℕ∞) ≤ lastReady (watched.map Prod.fst) interval
  going : v.outcome = none

/-- The wait is over as it should be, and each node was polled as it should be. -/
structure Ended (nodes : List Responder) (timeout interval : Nat) (v : Vigil) : Prop where
  outcome_eq : v.outcome =
    some (if (Readiness.wait nodes timeout interval).ready then .ok () else .error timeout)
  now_eq : v.now = (Readiness.wait nodes timeout interval).time
  polls_eq : v.pollers.map Poller.polls = nodes.map fun node => (node.course timeout interval).polls

/-- It falls with every step: somebody goes on, or time passes, or the wait ends. -/
def rank (v : Vigil) : Nat :=
  (v.pollers.map (Poller.rank v.timeout)).sum + (v.timeout - v.now) + if v.outcome.isSome then 0 else 1

namespace Watches

variable {watched : List (Responder × Poller)}

theorem begin (nodes : List Responder) (timeout interval : Nat) :
    Watches (nodes.map fun node => (node, { plays := node.nth })) timeout interval
      (.begin nodes timeout interval) where
  timeout_eq := rfl
  interval_eq := rfl
  pollers_eq := by
    rw [List.map_map]
    rfl
  tracks x member := by
    obtain ⟨node, -, rfl⟩ := List.mem_map.mp member
    exact .due ⟨fun k none => absurd none (Nat.not_lt_zero k), by simp⟩ rfl (Nat.le_refl 0)
  now_le := Nat.zero_le _
  soon := bot_le
  going := rfl

theorem goOn (h : v.Watches watched timeout interval) (positive : 0 < interval) {front back : List Poller}
    (there : v.pollers = front ++ p :: back) (alarm : p.alarm = some time) (due : time ≤ v.now) :
    let v' : Vigil := { v with pollers := front ++ p.goOn v.interval v.now :: back }
    (∃ watched', watched'.map Prod.fst = watched.map Prod.fst ∧ v'.Watches watched' timeout interval) ∧
      v'.rank < v.rank := by
  intro v'
  obtain ⟨before, rest, rfl, front_eq, rest_eq⟩ := List.map_eq_append_iff.mp (h.pollers_eq.symm.trans there)
  obtain ⟨x, after, rfl, rfl, back_eq⟩ := List.map_eq_cons_iff.mp rest_eq
  obtain ⟨tracks, less⟩ := (h.tracks x (by simp)).goOn positive alarm due h.now_le
  constructor
  · refine ⟨before ++ (x.1, x.2.goOn v.interval v.now) :: after, by simp, h.timeout_eq, h.interval_eq, ?_,
      fun y member => ?_, h.now_le, ?_, h.going⟩
    · simp [v', ← front_eq, ← back_eq]
    · rcases List.mem_append.mp member with left | member
      · exact h.tracks y (List.mem_append_left _ left)
      · rcases List.mem_cons.mp member with rfl | right
        · rw [h.interval_eq]
          exact tracks
        · exact h.tracks y (List.mem_append_right _ (List.mem_cons_of_mem _ right))
    · have soon := h.soon
      rw [List.map_append, List.map_cons] at soon ⊢
      exact soon
  · simp only [v', rank, there, List.map_append, List.map_cons, List.sum_append, List.sum_cons, h.timeout_eq,
      h.interval_eq]
    omega

/-- While nobody can go on before some time, the last is not ready before it. -/
theorem le_lastReady (h : v.Watches watched timeout interval) (unready : ∃ p ∈ v.pollers, p.stage ≠ .ready)
    (early : ∀ p ∈ v.pollers, ∀ alarm ∈ p.alarm, time ≤ alarm) :
    (time : ℕ∞) ≤ lastReady (watched.map Prod.fst) interval := by
  obtain ⟨p, there, unready⟩ := unready
  have quiet := early p there
  rw [h.pollers_eq] at there
  obtain ⟨x, known, rfl⟩ := List.mem_map.mp there
  refine Readiness.le_lastReady (List.mem_map_of_mem known) fun first ready => ?_
  exact (h.tracks x known).le_of_unready unready quiet ready

theorem wait (h : v.Watches watched timeout interval) (idle : v.Idle) (later : v.now < time)
    (early : ∀ p ∈ v.pollers, ∀ alarm ∈ p.alarm, time ≤ alarm) (before : time ≤ v.timeout) :
    let v' : Vigil := { v with now := time }
    v'.Watches watched timeout interval ∧ v'.rank < v.rank := by
  intro v'
  constructor
  · refine ⟨h.timeout_eq, h.interval_eq, h.pollers_eq, fun x member => ?_, h.timeout_eq ▸ before, ?_, h.going⟩
    · exact (h.tracks x member).wait (Nat.le_of_lt later)
        (early x.2 (h.pollers_eq ▸ List.mem_map_of_mem member))
    · exact h.le_lastReady idle.unready early
  · simp only [v', rank]
    omega

theorem polls_eq (h : v.Watches watched timeout interval) (positive : 0 < interval)
    (past : ∀ x ∈ watched, ∀ k, ∀ time ∈ x.1.begins interval k, time ≤ v.now → inTime timeout time = true)
    (beyond : ∀ p ∈ v.pollers, ∀ time ∈ p.alarm, inTime timeout time = false) :
    v.pollers.map Poller.polls = (watched.map Prod.fst).map fun node => (node.course timeout interval).polls := by
  rw [h.pollers_eq] at beyond ⊢
  rw [List.map_map, List.map_map]
  exact List.map_congr_left fun x member =>
    (h.tracks x member).polls_eq positive (past x member) (beyond x.2 (List.mem_map_of_mem member))

theorem finish (h : v.Watches watched timeout interval) (positive : 0 < interval)
    (apart : ∀ x ∈ watched, timeout ∉ x.1.alarms interval) (ready : ∀ p ∈ v.pollers, p.stage = .ready) :
    let v' : Vigil := { v with outcome := some (.ok ()) }
    v'.Ended (watched.map Prod.fst) timeout interval ∧ v'.rank < v.rank := by
  intro v'
  have last : lastReady (watched.map Prod.fst) interval = (v.now : ℕ∞) := by
    refine le_antisymm (Readiness.lastReady_le_iff.mpr fun node known => ?_) h.soon
    obtain ⟨x, member, rfl⟩ := List.mem_map.mp known
    exact (h.tracks x member).readyAt (ready x.2 (h.pollers_eq ▸ List.mem_map_of_mem member))
  have early : inTime timeout v.now = true := by
    rw [inTime_iff]
    by_contra late
    obtain ⟨node, known, k, -, given⟩ := Readiness.exists_readyAt_of_lastReady last (by omega)
    obtain ⟨x, member, rfl⟩ := List.mem_map.mp known
    have same : v.now = timeout := by
      have le := h.now_le
      omega
    exact apart x member ⟨by omega, k, Or.inr (same ▸ given)⟩
  have waited := Readiness.wait_of_lastReady positive last early
  refine ⟨⟨by rw [waited]; rfl, by rw [waited], ?_⟩, by simp [v', rank, h.going]⟩
  refine h.polls_eq positive (fun x _ k time _ le => inTime_of_le early le) fun p there time alarm => ?_
  rw [Poller.alarm, ready p there] at alarm
  cases alarm

theorem expire (h : v.Watches watched timeout interval) (positive : 0 < interval)
    (apart : ∀ x ∈ watched, timeout ∉ x.1.alarms interval) (idle : v.Idle) (late : v.timeout ≤ v.now) :
    let v' : Vigil := { v with outcome := some (.error v.timeout) }
    v'.Ended (watched.map Prod.fst) timeout interval ∧ v'.rank < v.rank := by
  intro v'
  have now_eq : v.now = timeout := Nat.le_antisymm h.now_le (h.timeout_eq ▸ late)
  have last : ((timeout + 1 : ℕ) : ℕ∞) ≤ lastReady (watched.map Prod.fst) interval :=
    now_eq ▸ h.le_lastReady idle.unready idle.undue
  have waited := Readiness.wait_of_late positive (Readiness.late_of_le last)
  refine ⟨⟨?_, by rw [waited]; exact now_eq, ?_⟩, by simp [v', rank, h.going]⟩
  · rw [waited]
    change some (Except.error v.timeout) = some (Except.error timeout)
    rw [h.timeout_eq]
  · refine h.polls_eq positive (fun x member k time begun le => ?_) fun p there time alarm => ?_
    · rw [inTime_iff]
      by_contra late
      obtain rfl : time = timeout := by omega
      exact apart x member ⟨by omega, k, Or.inl begun⟩
    · have after := idle.undue p there time alarm
      rw [← Bool.not_eq_true, inTime_iff]
      omega

theorem step (h : v.Watches watched timeout interval) (positive : 0 < interval)
    (apart : ∀ x ∈ watched, timeout ∉ x.1.alarms interval) (next : v.Step v') :
    ((∃ watched', watched'.map Prod.fst = watched.map Prod.fst ∧ v'.Watches watched' timeout interval) ∨
      v'.Ended (watched.map Prod.fst) timeout interval) ∧ v'.rank < v.rank := by
  cases next with
  | goOn going there alarm due =>
    obtain ⟨watches, less⟩ := h.goOn positive there alarm due
    exact ⟨.inl watches, less⟩
  | wait going idle later early before =>
    obtain ⟨watches, less⟩ := h.wait idle later early before
    exact ⟨.inl ⟨watched, rfl, watches⟩, less⟩
  | finish going ready =>
    obtain ⟨ended, less⟩ := h.finish positive apart ready
    exact ⟨.inr ended, less⟩
  | expire going idle late =>
    obtain ⟨ended, less⟩ := h.expire positive apart idle late
    exact ⟨.inr ended, less⟩

theorem progress (h : v.Watches watched timeout interval) : ∃ v', v.Step v' := by
  by_cases able : ∃ p ∈ v.pollers, ∃ time ∈ p.alarm, time ≤ v.now
  · obtain ⟨p, there, time, alarm, due⟩ := able
    obtain ⟨front, back, there⟩ := List.append_of_mem there
    exact ⟨_, .goOn h.going there alarm due⟩
  · by_cases unready : ∃ p ∈ v.pollers, p.stage ≠ .ready
    · have undue : ∀ p ∈ v.pollers, ∀ time ∈ p.alarm, v.now < time := by
        intro p there time alarm
        by_contra due
        exact able ⟨p, there, time, alarm, Nat.not_lt.mp due⟩
      rcases Nat.lt_or_ge v.now v.timeout with before | late
      · exact ⟨_, .wait h.going ⟨unready, undue⟩ (Nat.lt_succ_self v.now) undue before⟩
      · exact ⟨_, .expire h.going ⟨unready, undue⟩ late⟩
    · refine ⟨_, .finish h.going fun p there => ?_⟩
      by_contra other
      exact unready ⟨p, there, other⟩

end Watches

theorem Ended.no_step (h : v.Ended nodes timeout interval) : ¬v.Step v' := by
  intro next
  have settled := h.outcome_eq
  cases next with
  | goOn going | finish going | expire going | wait going =>
    rw [going] at settled
    cases settled

theorem ended_inevitable (nodes : List Responder) (timeout : Nat) (positive : 0 < interval)
    (apart : ∀ node ∈ nodes, timeout ∉ node.alarms interval) :
    Inevitable Step (Ended nodes timeout interval) (.begin nodes timeout interval) := by
  refine inevitable_of_invariant
    (fun v => (∃ watched, watched.map Prod.fst = nodes ∧ Watches watched timeout interval v) ∨
      Ended nodes timeout interval v) rank (.inl ⟨_, ?_, .begin nodes timeout interval⟩) (fun v v' inv next => ?_)
    fun v inv => ?_
  · rw [List.map_map]
    exact List.map_id nodes
  · obtain ⟨watched, rfl, watches⟩ | ended := inv
    · exact watches.step positive (fun x member => apart x.1 (List.mem_map_of_mem member)) next
    · exact absurd next ended.no_step
  · obtain ⟨watched, rfl, watches⟩ | ended := inv
    · exact .inr watches.progress
    · exact .inl ended

end Vigil

/-- Each of some nodes is polled at the start and then an interval after each answer that is not yes, until it is
ready or there is no more time, and the others make no difference to this. Once the last of them is ready the wait is
over if that is before its end, or at the start; otherwise it ends in vain at its end. So it goes in whatever order
they go on at an instant, if nothing is due for them at the very end. -/
theorem nodes_awaited_until_ready (nodes : List Responder) (timeout : Nat) (positive : 0 < interval) :
    let last := lastReady nodes interval
    let waited := Readiness.wait nodes timeout interval
    (∀ node ∈ nodes, ∀ k,
      (node.course timeout interval).polls[k]? = (node.begins interval k).filter (inTime timeout)) ∧
    (∀ time : ℕ, last = time → time < timeout ∨ time = 0 → waited = ⟨true, time⟩) ∧
    (¬(last < timeout ∨ last = 0) → waited = ⟨false, timeout⟩) ∧
    ((∀ node ∈ nodes, timeout ∉ node.alarms interval) →
      Inevitable Vigil.Step
        (fun v => v.outcome = some (if waited.ready then .ok () else .error timeout) ∧ v.now = waited.time ∧
          v.pollers.map Poller.polls = nodes.map fun node => (node.course timeout interval).polls)
        (.begin nodes timeout interval)) := by
  intro last waited
  refine ⟨fun node _ k => ?_, fun time last early => ?_, Readiness.wait_of_late positive, fun apart => ?_⟩
  · rw [(node.course_followed timeout positive).polls k, Nat.zero_add]
  · exact Readiness.wait_of_lastReady positive last (inTime_iff.mpr early)
  · exact (Vigil.ended_inevitable nodes timeout positive apart).mono fun v ended =>
      ⟨ended.outcome_eq, ended.now_eq, ended.polls_eq⟩

/-- One node is ready when it is polled for the third time. It is waited for beside one that is ready at once, and
in vain beside one that does not answer. -/
theorem nodes_awaited_until_ready_beside_another :
    let late := Responder.ofFunction
      (fun | 0 => ⟨.notReady, some 2⟩ | 1 => ⟨.failed, some 3⟩ | _ => ⟨.ready, some 1⟩) 2
    let prompt := Responder.ofAnswers [] 0
    let mute := Responder.ofFunction (fun _ => ⟨.ready, none⟩) 0
    0 < 10 ∧ (∀ node ∈ [late, prompt, mute], 40 ∉ node.alarms 10) ∧
    lastReady [late, prompt] 10 = (26 : ℕ) ∧ Readiness.wait [late, prompt] 40 10 = ⟨true, 26⟩ ∧
    Inevitable Vigil.Step
      (fun v => v.outcome = some (.ok ()) ∧ v.now = 26 ∧ v.pollers.map Poller.polls = [[0, 12, 25], [0]])
      (.begin [late, prompt] 40 10) ∧
    ¬(lastReady [late, mute] 10 < (40 : ℕ) ∨ lastReady [late, mute] 10 = 0) ∧
    Inevitable Vigil.Step
      (fun v => v.outcome = some (.error 40) ∧ v.now = 40 ∧ v.pollers.map Poller.polls = [[0, 12, 25], [0]])
      (.begin [late, mute] 40 10) := by
  intro late prompt mute
  have lateAlarms : 40 ∉ late.alarms 10 := Responder.notMem_alarms (n := 3) rfl (by decide +revert)
  have promptAlarms : 40 ∉ prompt.alarms 10 := Responder.notMem_alarms (n := 1) rfl (by decide +revert)
  have muteAlarms : 40 ∉ mute.alarms 10 := Responder.notMem_alarms (n := 1) rfl (by decide +revert)
  have last : lastReady [late, prompt] 10 = (26 : ℕ) := by
    refine le_antisymm (Readiness.lastReady_le_iff.mpr fun node known => ?_)
      (Readiness.le_lastReady (List.mem_cons_self : late ∈ _) fun first ready => ?_)
    · rcases List.mem_pair.mp known with rfl | rfl
      · exact ⟨26, ⟨2, rfl, rfl⟩, Nat.le_refl 26⟩
      · exact ⟨0, ⟨0, rfl, rfl⟩, Nat.zero_le 26⟩
    · obtain ⟨-, told⟩ | ⟨later, next, -⟩ := Responder.readyAt_cases (j := 2) rfl ready
      · exact Nat.le_of_eq (Option.some.inj told)
      · cases next
  have never : ¬(lastReady [late, mute] 10 < (40 : ℕ) ∨ lastReady [late, mute] 10 = 0) := by
    refine Readiness.late_of_le (Readiness.le_lastReady (by simp : mute ∈ _) fun first ready => ?_)
    obtain ⟨-, told⟩ | ⟨later, next, -⟩ := Responder.readyAt_cases (j := 0) rfl ready
    · cases told
    · cases next
  obtain ⟨-, inTime, -, ends⟩ := nodes_awaited_until_ready [late, prompt] 40 (by decide : 0 < 10)
  obtain ⟨-, -, inVain, ends'⟩ := nodes_awaited_until_ready [late, mute] 40 (by decide : 0 < 10)
  refine ⟨by decide, by simp [lateAlarms, promptAlarms, muteAlarms], last, inTime 26 last (by decide), ?_,
    never, ?_⟩
  · have ended := ends (by simp [lateAlarms, promptAlarms])
    rw [inTime 26 last (by decide)] at ended
    exact ended
  · have ended := ends' (by simp [lateAlarms, muteAlarms])
    rw [inVain never] at ended
    exact ended

end BrokerTrial
