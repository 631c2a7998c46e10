import Mathlib
import BrokerTrial.Token.Turns
import BrokerTrial.Proofs.Token.Callers

/-!
# Callers share a request

A line of callers that come at once is served as if they took their steps one by one, in whatever order.
-/

namespace BrokerTrial

open KeptToken

variable {σ : Type} {link : Http.Link σ} {i : Issuer} {s : Session σ}

namespace TokenLine

variable {l : TokenLine} {t : Session σ} {count : Nat}

/-- The callers of a line get their outcomes in turn; their client is `t` but for what is kept. -/
structure InTurn (link : Http.Link σ) (i : Issuer) (s : Session σ) (count : Nat) (t : Session σ)
    (l : TokenLine) : Prop where
  session : { t with kept := l.kept } = s.afterCalls link i l.outcomes.length
  outcomes : l.outcomes.map (·.2) = s.calls link i l.outcomes.length
  total : l.outcomes.length + l.asking.toList.length + l.waiting.length = count
  idle : l.asking = none → l.waiting = []
  stale : l.asking ≠ none → fresh t.now l.kept = none

namespace InTurn

theorem serve (waiting : List Nat)
    (session : { t with kept := l.kept } = s.afterCalls link i l.outcomes.length)
    (outcomes : l.outcomes.map (·.2) = s.calls link i l.outcomes.length) (free : l.asking = none)
    (total : l.outcomes.length + waiting.length = count) :
    InTurn link i s count t (serve t.now waiting l) ∧
      l.outcomes.length ≤ (serve t.now waiting l).outcomes.length := by
  induction waiting generalizing l with
  | nil =>
    rw [TokenLine.serve]
    refine ⟨⟨session, outcomes, ?_, fun _ => rfl, fun asks => absurd free asks⟩, Nat.le_refl _⟩
    rw [← total, free]
    rfl
  | cons caller rest ih =>
    rw [TokenLine.serve]
    split
    · rename_i token found
      have length : (l.outcomes ++ [(caller, (.ok token : Except TokenError String))]).length =
          l.outcomes.length + 1 := List.length_append
      have called : { t with kept := l.kept }.token link (.issued i) =
          (.ok token, { t with kept := l.kept }) :=
        Session.token_of_fresh (s := { t with kept := l.kept }) found
      obtain ⟨served, le⟩ := ih (l := { l with outcomes := l.outcomes ++ [(caller, .ok token)] })
        (by rw [length, Session.afterCalls, ← session, called])
        (by rw [length, Session.calls_succ, ← session, called, List.map_append, outcomes, List.map_singleton])
        free (by rw [length, ← total, List.length_cons]; omega)
      exact ⟨served, Nat.le_trans (length ▸ Nat.le_succ _) le⟩
    · rename_i none
      refine ⟨⟨session, outcomes, ?_, fun free => ?_, fun _ => none⟩, Nat.le_refl _⟩
      · rw [← total, List.length_cons, Option.toList_some, List.length_singleton]
        dsimp only
        omega
      · cases free

theorem arrive (turn : InTurn link i s count t l) (caller : Nat) :
    InTurn link i s (count + 1) t (l.arrive t.now caller) := by
  obtain ⟨session, outcomes, total, idle, stale⟩ := turn
  rw [TokenLine.arrive]
  split
  · rename_i first asks
    refine ⟨session, outcomes, ?_, fun free => ?_, stale⟩
    · rw [← total, List.length_append, List.length_singleton]
      dsimp only
      omega
    · rw [asks] at free
      cases free
  · rename_i free
    refine (serve _ session outcomes free ?_).1
    rw [← total, free, idle free]
    rfl

/-- Who asks gets what its call comes to, and those behind are served. -/
theorem answered {after : Session σ} {kept : Option KeptToken} {caller : Nat}
    {outcome : Except TokenError String} (turn : InTurn link i s count t l) (asks : l.asking = some caller)
    (called : { t with kept := l.kept }.token link (.issued i) = (outcome, { after with kept })) :
    let served := TokenLine.serve after.now l.waiting
      { l with kept, asking := none, outcomes := l.outcomes ++ [(caller, outcome)] }
    InTurn link i s count after served ∧ l.outcomes.length < served.outcomes.length := by
  obtain ⟨session, outcomes, total, -, -⟩ := turn
  have length : (l.outcomes ++ [(caller, outcome)]).length = l.outcomes.length + 1 := List.length_append
  have less : l.outcomes.length + 1 + l.waiting.length = count := by
    rw [← total, asks]
    rfl
  obtain ⟨served, le⟩ := serve (t := after) l.waiting
    (l := { l with kept, asking := none, outcomes := l.outcomes ++ [(caller, outcome)] })
    (by rw [length, Session.afterCalls, ← session, called])
    (by rw [length, Session.calls_succ, ← session, called, List.map_append, outcomes, List.map_singleton])
    rfl (by rw [length, less])
  exact ⟨served, Nat.lt_of_lt_of_le (length ▸ Nat.lt_succ_self _) le⟩

theorem reply (turn : InTurn link i s count t l) (asks : l.asking ≠ none) :
    let r := t.requestToken link i
    InTurn link i s count r.2 (l.reply r.2.now r.1) ∧
      l.outcomes.length < (l.reply r.2.now r.1).outcomes.length := by
  have stale := turn.stale asks
  obtain ⟨caller, asks⟩ := Option.ne_none_iff_exists'.mp asks
  dsimp only
  rw [TokenLine.reply, asks]
  cases came : (t.requestToken link i).1 with
  | error e => exact turn.answered asks (Session.token_of_error stale came)
  | ok g => exact turn.answered asks (Session.token_of_grant stale came)

/-- All are answered once there have been as many replies as callers. -/
theorem answerLine (turn : InTurn link i s count t l) (fuel : Nat)
    (enough : count ≤ l.outcomes.length + fuel) :
    let done := Session.answerLine link i fuel l t
    InTurn link i s count done.2 done.1 ∧ done.1.asking = none := by
  induction fuel generalizing l t with
  | zero =>
    refine ⟨turn, Option.eq_none_iff_forall_ne_some.mpr fun caller asks => ?_⟩
    have total := turn.total
    rw [show (Session.answerLine link i 0 l t).1.asking = l.asking from rfl] at asks
    rw [asks, Option.toList_some, List.length_singleton] at total
    omega
  | succ fuel ih =>
    rw [Session.answerLine]
    split
    · rename_i free
      exact ⟨turn, free⟩
    · rename_i caller asks
      obtain ⟨later, more⟩ := turn.reply (by rw [asks]; exact Option.some_ne_none caller)
      generalize t.requestToken link i = r at later more
      exact ih later (by omega)

end InTurn

theorem InTurn.arrivals (s : Session σ) (link : Http.Link σ) (i : Issuer) (count : Nat) :
    InTurn link i s count s
      ((List.range count).foldl (fun l caller => l.arrive s.now caller) { kept := s.kept }) := by
  induction count with
  | zero => exact ⟨rfl, rfl, rfl, fun _ => rfl, fun asks => absurd rfl asks⟩
  | succ count ih =>
    rw [List.range_succ, List.foldl_append]
    exact ih.arrive count

end TokenLine

/-- Callers that come at once get what they would get one after the other. -/
theorem Session.tokens_eq (s : Session σ) (link : Http.Link σ) (i : Issuer) (count : Nat) :
    s.tokens link count (.issued i) = (s.calls link i count, s.afterCalls link i count) := by
  obtain ⟨turn, free⟩ := (TokenLine.InTurn.arrivals s link i count).answerLine count (Nat.le_add_left ..)
  have total := turn.total
  rw [free, turn.idle free, Option.toList_none, List.length_nil, Nat.add_zero] at total
  have session := turn.session
  have outcomes := turn.outcomes
  rw [total] at session outcomes
  exact Prod.ext outcomes session

/-- However the steps of some callers fall that find no fresh token at first, one request at most is under
way, and they get in turn what they would get one after the other: each its own reply until one lasts, and
then the token of that one, without a request. So do callers that come at once. -/
theorem callers_share_requests (link : Http.Link σ) (i : Issuer) (s : Session σ)
    (stale : fresh s.now s.kept = none) (events : List Callers.Event) :
    let m := Callers.run link i { session := s } events
    let callers := events.filterMap Callers.Event.caller?
    let u := s.vain link i callers.length
    m.asking.length ≤ 1 ∧
    m.outcomes.map (·.1) ++ (m.looking ++ m.asking) ++ m.line = callers ∧
    m.outcomes.map (·.2) = s.calls link i m.outcomes.length ∧
    m.requests = min (m.outcomes.length + m.asking.length) (u + 1) ∧
    (∃ more, more.filterMap Callers.Event.caller? = [] ∧
      (m.run link i more).outcomes.length = callers.length) ∧
    ∀ n, s.tokens link n (.issued i) = (s.calls link i n, s.afterCalls link i n) ∧
      Session.Shared link i s n (s.vain link i n) := by
  intro m callers u
  have turn : Callers.InTurn link i s callers m := Callers.InTurn.start.run events
  refine ⟨?_, turn.order, turn.outcomes, turn.requests_eq (Session.shared stale _), turn.completes,
    fun n => ⟨s.tokens_eq link i n, Session.shared stale n⟩⟩
  have holder := turn.holder
  have one := Bool.toNat_le m.locked
  omega

/-- The first caller has the error to itself, and the third finds the token of the second. -/
theorem callers_share_requests_after_an_error :
    let grant := "\x7b\"access_token\":\"t\",\"expires_in\":15\x7d"
    let s : Session Http.Script := { link := { replies := [{ status := 500 }, { body := grant.toUTF8 }] } }
    let m := Callers.run Http.Script.link .nearby { session := s }
      [.call 0, .call 1, .look 0, .call 2, .reply 0, .look 1, .reply 1, .look 2]
    fresh s.now s.kept = none ∧ m.asking.length ≤ 1 ∧
      m.outcomes = [(0, .error (.rejected 500 "")), (1, .ok "t"), (2, .ok "t")] ∧ m.requests = 2 ∧
      (s.tokens Http.Script.link 3 (.issued .nearby)).1 = [.error (.rejected 500 ""), .ok "t", .ok "t"] := by
  intro grant s m
  have shared := callers_share_requests Http.Script.link .nearby s rfl
    [.call 0, .call 1, .look 0, .call 2, .reply 0, .look 1, .reply 1, .look 2]
  obtain ⟨request, built⟩ := Issuer.nearby_built
  have granted : Grant.ofReply { status := 200, body := grant.toUTF8 } = .ok ⟨"t", some 15⟩ := by
    decide +kernel
  have rejected : Grant.ofReply { status := 500, body := .empty } = .error (.rejected 500 "") := by
    decide +kernel
  have outcomes :
      m.outcomes = [(0, .error (.rejected 500 "")), (1, .ok "t"), (2, .ok "t")] ∧ m.requests = 2 := by
    simp [m, s, Callers.run, Callers.step, Callers.finish, fresh, Session.requestToken_of_built built,
      Http.Script.link, TokenCall.reply, granted, rejected, ofGrant, skewSecs, clockEnd,
      -String.toUTF8_eq_toByteArray]
  refine ⟨rfl, shared.1, outcomes.1, outcomes.2, ?_⟩
  have same := shared.2.2.1
  rw [show m.outcomes = _ from outcomes.1] at same
  rw [(shared.2.2.2.2.2 3).1]
  exact same.symm

end BrokerTrial
