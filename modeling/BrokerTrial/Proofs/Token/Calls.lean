import Mathlib
import BrokerTrial.Proofs.Token.Cache

/-!
# Calls right after each other

Calls for a token without a pause between them make one request after the other until a reply lasts, and
from then on they find the token of that one.
-/

namespace BrokerTrial

namespace KeptToken

theorem fresh_ofGrant {now : Nat} {g : Grant} (keeps : (ofGrant now g).isSome) :
    fresh now (ofGrant now g) = some g.token := by
  obtain ⟨k, kept⟩ := Option.isSome_iff_exists.mp keeps
  obtain ⟨secs, same, long, refresh, -⟩ := ofGrant_eq_some kept
  have early : now < k.refreshAt := by omega
  rw [kept, fresh, if_pos early, same]

theorem fresh_of_le {now later : Nat} {kept : Option KeptToken} (stale : fresh now kept = none)
    (le : now ≤ later) : fresh later kept = none := by
  cases found : fresh later kept with
  | none => rfl
  | some token =>
    obtain ⟨k, rfl, -, early⟩ := fresh_eq_some found
    rw [fresh, if_pos (Nat.lt_of_le_of_lt le early)] at stale
    cases stale

end KeptToken

open KeptToken

variable {σ : Type} {link : Http.Link σ} {i : Issuer} {s : Session σ}

namespace Session

/-! ### Calls one after the other -/

variable (link i s)

/-- The client after some calls, each made as soon as the one before it has its outcome. -/
def afterCalls : Nat → Session σ
  | 0 => s
  | k + 1 => ((afterCalls k).token link (.issued i)).2

/-- What the calls come to. -/
def calls (n : Nat) : List (Except TokenError String) :=
  (List.range n).map fun k => ((s.afterCalls link i k).token link (.issued i)).1

/-- There is no fresh token for the next call. -/
def mustAsk (k : Nat) : Bool := (fresh (s.afterCalls link i k).now (s.afterCalls link i k).kept).isNone

/-- How many of the calls make a request. -/
def asked (n : Nat) : Nat := (List.range n).countP (s.mustAsk link i)

/-- The client after some requests, each made as soon as the one before it is answered. -/
def afterRequests : Nat → Session σ
  | 0 => s
  | k + 1 => ((afterRequests k).requestToken link i).2

/-- The reply to a request, with others before it. -/
def replyAfter (k : Nat) : Except TokenError Grant := ((s.afterRequests link i k).requestToken link i).1

/-- A token comes that can be kept: for more than ten seconds, and not past the end of the clock. -/
def lasts (k : Nat) : Bool :=
  match s.replyAfter link i k with
  | .ok ⟨_, some secs⟩ =>
    10 < secs ∧ (s.afterRequests link i (k + 1)).now + (secs - 10) * 1000 < clockEnd
  | _ => false

/-- How many of the first replies come before one that lasts: all of them if none does. -/
def vain (n : Nat) : Nat := (List.range n).findIdx (s.lasts link i)

variable {link i s}

theorem token_of_fresh {token : String} (found : fresh s.now s.kept = some token) :
    s.token link (.issued i) = (.ok token, s) := by
  simp only [Session.token, found]

theorem calls_succ (n : Nat) :
    s.calls link i (n + 1) = s.calls link i n ++ [((s.afterCalls link i n).token link (.issued i)).1] := by
  rw [calls, List.range_succ, List.map_append, ← calls, List.map_singleton]

theorem asked_succ (n : Nat) :
    s.asked link i (n + 1) = s.asked link i n + if s.mustAsk link i n then 1 else 0 := by
  rw [asked, List.range_succ, List.countP_append, ← asked, List.countP_singleton]

theorem requestToken_kept (s : Session σ) (link : Http.Link σ) (i : Issuer) (kept : Option KeptToken) :
    { s with kept }.requestToken link i =
      ((s.requestToken link i).1, { (s.requestToken link i).2 with kept }) := by
  cases built : i.draft.build with
  | error f => simp only [requestToken_of_unbuilt built]
  | ok request => simp only [requestToken_of_built built]

theorem le_requestToken_now (s : Session σ) (link : Http.Link σ) (i : Issuer) :
    s.now ≤ (s.requestToken link i).2.now := by
  cases built : i.draft.build with
  | error f => rw [requestToken_of_unbuilt built]
  | ok request =>
    rw [requestToken_of_built built]
    exact Nat.le_add_right ..

/-! ### The replies that calls come to -/

theorem lasts_iff {k : Nat} {g : Grant} (granted : s.replyAfter link i k = .ok g) :
    s.lasts link i k = (ofGrant (s.afterRequests link i (k + 1)).now g).isSome := by
  obtain ⟨token, lifetime⟩ := g
  cases lifetime with
  | none => simp only [lasts, granted, ofGrant, Option.isSome_none]
  | some secs =>
    simp only [lasts, granted, ofGrant]
    by_cases keeps : skewSecs < secs ∧
        (s.afterRequests link i (k + 1)).now + (secs - skewSecs) * 1000 < clockEnd
    · rw [if_pos keeps]
      exact decide_eq_true keeps
    · rw [if_neg keeps]
      exact decide_eq_false keeps

section
variable {r : Session σ} {kept : Option KeptToken}

theorem token_of_error {e : TokenError} (stale : fresh r.now kept = none)
    (refused : (r.requestToken link i).1 = .error e) :
    { r with kept }.token link (.issued i) = (.error e, { (r.requestToken link i).2 with kept }) := by
  have request := r.requestToken_kept link i kept
  rw [refused] at request
  simp only [Session.token, stale, request]

theorem token_of_grant {g : Grant} (stale : fresh r.now kept = none)
    (granted : (r.requestToken link i).1 = .ok g) :
    { r with kept }.token link (.issued i) =
      (.ok g.token,
        { (r.requestToken link i).2 with kept := ofGrant (r.requestToken link i).2.now g }) := by
  have request := r.requestToken_kept link i kept
  rw [granted] at request
  simp only [Session.token, stale, request]

end

theorem le_afterRequests_now (s : Session σ) (link : Http.Link σ) (i : Issuer) (k : Nat) :
    (s.afterRequests link i k).now ≤ (s.afterRequests link i (k + 1)).now := by
  rw [afterRequests]
  exact le_requestToken_now _ link i

/-- Until a reply lasts every call is a request, and what was kept at first is kept or gone. -/
theorem afterCalls_of_vain (stale : fresh s.now s.kept = none) {k : Nat}
    (vain : ∀ j < k, s.lasts link i j = false) :
    ∃ kept, s.afterCalls link i k = { s.afterRequests link i k with kept } ∧
      fresh (s.afterRequests link i k).now kept = none := by
  induction k with
  | zero => exact ⟨s.kept, rfl, stale⟩
  | succ k ih =>
    obtain ⟨kept, same, stale⟩ := ih fun j before => vain j (Nat.lt_succ_of_lt before)
    cases came : s.replyAfter link i k with
    | error e =>
      -- what was stale when the call began is so when the error comes
      refine ⟨kept, ?_, fresh_of_le stale (s.le_afterRequests_now link i k)⟩
      rw [afterCalls, same, token_of_error stale came, afterRequests]
    | ok g =>
      have fleeting : ofGrant (s.afterRequests link i (k + 1)).now g = none := by
        rw [← Option.isNone_iff_eq_none, ← Option.isSome_eq_false_iff, ← lasts_iff came]
        exact vain k (Nat.lt_succ_self k)
      refine ⟨none, ?_, rfl⟩
      rw [afterCalls, same, token_of_grant stale came, ← afterRequests, fleeting]

/-- Once a reply has come that lasts, every call finds its token. -/
theorem afterCalls_of_lasting (stale : fresh s.now s.kept = none) {u : Nat}
    (vain : ∀ j < u, s.lasts link i j = false) (lasting : s.lasts link i u = true) :
    ∃ g, s.replyAfter link i u = .ok g ∧ ∀ k, u < k →
      s.afterCalls link i k =
          { s.afterRequests link i (u + 1) with kept := ofGrant (s.afterRequests link i (u + 1)).now g } ∧
        fresh (s.afterCalls link i k).now (s.afterCalls link i k).kept = some g.token := by
  cases came : s.replyAfter link i u with
  | error e => simp [lasts, came] at lasting
  | ok g =>
    have found := fresh_ofGrant ((lasts_iff came).symm.trans lasting)
    refine ⟨g, rfl, fun k later => ?_⟩
    induction k, later using Nat.le_induction with
    | base =>
      obtain ⟨kept, same, stale⟩ := afterCalls_of_vain stale vain
      have called : s.afterCalls link i (u + 1) =
          { s.afterRequests link i (u + 1) with kept := ofGrant (s.afterRequests link i (u + 1)).now g } := by
        rw [afterCalls, same, token_of_grant stale came, ← afterRequests]
      refine ⟨called, ?_⟩
      rw [called]
      dsimp only
      exact found
    | succ k later ih =>
      obtain ⟨same, found⟩ := ih
      have again : s.afterCalls link i (k + 1) = s.afterCalls link i k := by
        rw [afterCalls, token_of_fresh found]
      rw [again]
      exact ⟨same, found⟩

variable (link i s) in
theorem vain_spec (n : Nat) :
    (∀ j < s.vain link i n, s.lasts link i j = false) ∧
      (s.vain link i n < n → s.lasts link i (s.vain link i n) = true) ∧ s.vain link i n ≤ n := by
  have le : s.vain link i n ≤ n := by
    have le : (List.range n).findIdx (s.lasts link i) ≤ (List.range n).length := List.findIdx_le_length
    rwa [List.length_range] at le
  refine ⟨fun j before => ?_, fun within => ?_, le⟩
  · simpa using List.not_of_lt_findIdx before
  · rw [vain] at within ⊢
    have here : (List.range n).findIdx (s.lasts link i) < (List.range n).length := by rwa [List.length_range]
    have found := List.findIdx_getElem (w := here)
    rwa [List.getElem_range] at found

/-! ### What calls come to -/

/-- What comes of calls that find nothing fresh at first, `u` being the number of replies before one that
lasts. -/
structure Shared (link : Http.Link σ) (i : Issuer) (s : Session σ) (n u : Nat) : Prop where
  /-- Each caller up to the first that gets a lasting reply has one of its own, and all later ones have that
  one's. -/
  outcome : ∀ k < n, ((s.afterCalls link i k).token link (.issued i)).1 =
    (s.replyAfter link i (min k u)).map (·.token)
  mustAsk : ∀ k < n, s.mustAsk link i k ↔ k ≤ u
  asked : s.asked link i n = min n (u + 1)
  link : (s.afterCalls link i n).link = (s.afterRequests link i (min n (u + 1))).link

theorem call_of_vain (stale : fresh s.now s.kept = none) {k : Nat}
    (vain : ∀ j < k, s.lasts link i j = false) :
    ((s.afterCalls link i k).token link (.issued i)).1 = (s.replyAfter link i k).map (·.token) ∧
      s.mustAsk link i k = true := by
  obtain ⟨kept, same, stale⟩ := afterCalls_of_vain stale vain
  rw [mustAsk, same]
  dsimp only
  rw [stale]
  refine ⟨?_, rfl⟩
  cases came : s.replyAfter link i k with
  | error e => rw [token_of_error stale came, Except.map]
  | ok g => rw [token_of_grant stale came, Except.map]

theorem asked_of_mustAsk {n u : Nat} (ask : ∀ k < n, s.mustAsk link i k ↔ k ≤ u) :
    s.asked link i n = min n (u + 1) := by
  induction n with
  | zero => exact (Nat.zero_min _).symm
  | succ n ih =>
    have here := ask n (Nat.lt_succ_self n)
    rw [asked_succ, ih fun k before => ask k (Nat.lt_succ_of_lt before)]
    split
    · have := here.mp ‹_›
      omega
    · have := mt here.mpr ‹_›
      omega

theorem shared (stale : fresh s.now s.kept = none) (n : Nat) : Shared link i s n (s.vain link i n) := by
  obtain ⟨vain, lasting, le⟩ := s.vain_spec link i n
  have lasting (within : s.vain link i n < n) := afterCalls_of_lasting stale vain (lasting within)
  generalize s.vain link i n = u at vain lasting le
  have ask (k : Nat) (within : k < n) : s.mustAsk link i k ↔ k ≤ u := by
    by_cases early : k ≤ u
    · exact iff_of_true (call_of_vain stale fun j before => vain j (Nat.lt_of_lt_of_le before early)).2 early
    · obtain ⟨g, came, found⟩ := lasting (by omega)
      rw [mustAsk, (found k (by omega)).2]
      exact iff_of_false Bool.false_ne_true early
  refine ⟨fun k within => ?_, ask, asked_of_mustAsk ask, ?_⟩
  · by_cases early : k ≤ u
    · rw [Nat.min_eq_left early]
      exact (call_of_vain stale fun j before => vain j (Nat.lt_of_lt_of_le before early)).1
    · obtain ⟨g, came, found⟩ := lasting (by omega)
      rw [Nat.min_eq_right (by omega), came, token_of_fresh (found k (by omega)).2, Except.map]
  · by_cases none : u = n
    · obtain ⟨kept, same, -⟩ := afterCalls_of_vain stale vain
      rw [Nat.min_eq_left (by omega), ← none, same]
    · obtain ⟨g, came, found⟩ := lasting (by omega)
      rw [Nat.min_eq_right (by omega), (found n (by omega)).1]

end Session

end BrokerTrial
