import Mathlib
import BrokerTrial.Http.Script
import BrokerTrial.Token.Audit

/-!
# Kept tokens are fresh

What a client keeps is always what its latest grant left to keep. So a token that is given out without a
request comes from that grant, and ten seconds of its life are left at least.
-/

namespace BrokerTrial

namespace KeptToken

theorem ofGrant_eq_some {now : Nat} {g : Grant} {k : KeptToken} (h : ofGrant now g = some k) :
    ∃ secs, g = ⟨k.token, some secs⟩ ∧ skewSecs < secs ∧ k.refreshAt = now + (secs - skewSecs) * 1000 ∧
      k.refreshAt < clockEnd := by
  obtain ⟨token, lifetime⟩ := g
  cases lifetime with
  | none => cases h
  | some secs =>
    simp only [ofGrant] at h
    split at h
    · rename_i keeps
      cases h
      exact ⟨secs, rfl, keeps.1, rfl, keeps.2⟩
    · cases h

theorem fresh_eq_some {now : Nat} {kept : Option KeptToken} {token : String}
    (h : fresh now kept = some token) : ∃ k, kept = some k ∧ k.token = token ∧ now < k.refreshAt := by
  cases kept with
  | none => cases h
  | some k =>
    simp only [fresh] at h
    split at h
    · rename_i early
      cases h
      exact ⟨k, rfl, rfl, early⟩
    · cases h

/-- A grant of which nothing is kept: its lifetime is not known, or too short, or it reaches past the end of
the clock. -/
def Fleeting (now : Nat) (g : Grant) : Prop :=
  ∀ secs, g.lifetime = some secs → secs ≤ skewSecs ∨ clockEnd ≤ now + (secs - skewSecs) * 1000

theorem ofGrant_of_fleeting {now : Nat} {g : Grant} (h : Fleeting now g) : ofGrant now g = none := by
  cases kept : ofGrant now g with
  | none => rfl
  | some k =>
    obtain ⟨secs, rfl, long, refresh, early⟩ := ofGrant_eq_some kept
    rcases h secs rfl with short | late
    · exact absurd long (Nat.not_lt.mpr short)
    · rw [refresh] at early
      exact absurd early (Nat.not_lt.mpr late)

/-! ### In seconds of 64 bits -/

/-- The difference of two lengths of time, unless it would be less than nothing. -/
def subtract64 (a b : UInt64) : Option UInt64 := if b ≤ a then some (a - b) else none

/-- The instant some seconds later, if the clock has it. -/
def later64 (now : Nat) (secs : UInt64) : Option Nat :=
  if now + secs.toNat * 1000 < clockEnd then some (now + secs.toNat * 1000) else none

/-- What is kept of a grant, worked out in seconds of 64 bits. There is no result if a difference does not
exist. -/
def keep64 (now : Nat) (token : String) (lifetime : Option UInt64) : Option (Option KeptToken) :=
  match lifetime with
  | none => some none
  | some secs =>
    if 10 < secs then (subtract64 secs 10).map fun rest => (later64 now rest).map fun t => ⟨token, t⟩
    else some none

theorem keep64_eq (now : Nat) (token : String) (lifetime : Option UInt64) :
    keep64 now token lifetime = some (ofGrant now ⟨token, lifetime.map UInt64.toNat⟩) := by
  cases lifetime with
  | none => rfl
  | some secs =>
    have skew : (10 : UInt64).toNat = skewSecs := rfl
    by_cases long : 10 < secs
    · have enough : (10 : UInt64) ≤ secs := UInt64.le_of_lt long
      have rest : (secs - 10).toNat = secs.toNat - skewSecs := by
        rw [UInt64.toNat_sub_of_le _ _ enough, skew]
      have long' : skewSecs < secs.toNat := UInt64.lt_iff_toNat_lt.mp long
      simp only [keep64, subtract64, later64, ofGrant, if_pos long, if_pos enough, rest, Option.map_some,
        long', true_and]
      split <;> rfl
    · have short : ¬ skewSecs < secs.toNat := fun longer => long (UInt64.lt_iff_toNat_lt.mpr longer)
      simp only [keep64, ofGrant, if_neg long, Option.map_some, short, false_and, if_false]

end KeptToken

open KeptToken

/-! ### One call -/

namespace TokenCall

/-- How a call can go: it finds a token that is fresh, or its request cannot be made, or it makes one. -/
inductive Went (i : Issuer) (c : TokenCall) : Prop where
  | found (token : String) (fresh : fresh c.began c.before = some token) (none : c.exchanges = [])
      (same : c.after = c.before) (result : c.result = .ok token)
  | unsent (f : Http.Failure) (stale : fresh c.began c.before = none) (fails : i.draft.build = .error f)
      (none : c.exchanges = []) (same : c.after = c.before) (result : c.result = .error (.request f))
  | refused (request : Http.Request) (x : Http.Exchange) (e : TokenError)
      (stale : fresh c.began c.before = none) (built : i.draft.build = .ok request)
      (one : c.exchanges = [(request, x)]) (came : reply request x = .error e)
      (same : c.after = c.before) (result : c.result = .error e)
  | granted (request : Http.Request) (x : Http.Exchange) (g : Grant)
      (stale : fresh c.began c.before = none) (built : i.draft.build = .ok request)
      (one : c.exchanges = [(request, x)]) (came : reply request x = .ok g)
      (kept : c.after = ofGrant c.ended g) (result : c.result = .ok g.token)

theorem grant?_of_none {c : TokenCall} (none : c.exchanges = []) : c.grant? = .none := by
  simp [grant?, none]

theorem grant?_of_one {c : TokenCall} {request : Http.Request} {x : Http.Exchange}
    (one : c.exchanges = [(request, x)]) : c.grant? = (reply request x).toOption := by
  simp [grant?, one]

end TokenCall

open TokenCall

namespace Session

variable {σ : Type} {link : Http.Link σ} {i : Issuer}

theorem requestToken_of_unbuilt {s : Session σ} {f : Http.Failure} (fails : i.draft.build = .error f) :
    s.requestToken link i = (.error (.request f), s) := by
  simp only [requestToken, transmit, fails]

theorem requestToken_of_built {s : Session σ} {request : Http.Request}
    (built : i.draft.build = .ok request) :
    s.requestToken link i =
      (reply request (link request i.timeout.ceilMillis s.link).1,
        { s with
          link := (link request i.timeout.ceilMillis s.link).2
          now := s.now + (link request i.timeout.ceilMillis s.link).1.takes }) := by
  simp only [requestToken, transmit, built, reply]
  cases (link request i.timeout.ceilMillis s.link).1.outcome <;> rfl

theorem callToken_went (s : Session σ) : (s.callToken link i).1.Went i := by
  cases kept : fresh s.now s.kept with
  | some value =>
    refine .found value kept ?_ ?_ ?_ <;> simp only [callToken, token, kept]
  | none =>
    cases built : i.draft.build with
    | error f =>
      refine .unsent f kept built ?_ ?_ ?_ <;>
        simp only [callToken, token, kept, requestToken_of_unbuilt built]
    | ok request =>
      cases came : reply request (link request i.timeout.ceilMillis s.link).1 with
      | error e =>
        refine .refused request (link request i.timeout.ceilMillis s.link).1 e kept built ?_ came ?_ ?_ <;>
          simp [callToken, token, kept, requestToken_of_built built, Http.Link.audited, came]
      | ok g =>
        refine .granted request (link request i.timeout.ceilMillis s.link).1 g kept built ?_ came ?_ ?_ <;>
          simp [callToken, token, kept, requestToken_of_built built, Http.Link.audited, came]

/-- Watching a call changes nothing about it. -/
theorem callToken_eq (s : Session σ) (link : Http.Link σ) (i : Issuer) :
    ((s.callToken link i).1.result, (s.callToken link i).2) = s.token link (.issued i) := by
  cases kept : fresh s.now s.kept with
  | some value => simp only [callToken, token, kept]
  | none =>
    cases built : i.draft.build with
    | error f => simp only [callToken, token, kept, requestToken_of_unbuilt built]
    | ok request =>
      cases came : reply request (link request i.timeout.ceilMillis s.link).1 <;>
        simp [callToken, token, kept, requestToken_of_built built, Http.Link.audited, came]

theorem callToken_began_le (s : Session σ) : (s.callToken link i).1.began ≤ (s.callToken link i).1.ended := by
  cases kept : fresh s.now s.kept with
  | some value => simp [callToken, token, kept]
  | none =>
    cases built : i.draft.build with
    | error f => simp [callToken, token, kept, requestToken_of_unbuilt built]
    | ok request =>
      cases came : reply request (link request i.timeout.ceilMillis s.link).1 <;>
        simp [callToken, token, kept, requestToken_of_built built, Http.Link.audited, came]

end Session

/-! ### Any number of calls -/

namespace TokenCall

/-- What a call leaves of what was kept. -/
def leaves (kept : Option KeptToken) (c : TokenCall) : Option KeptToken :=
  match c.grant? with
  | some g => ofGrant c.ended g
  | none => kept

theorem Went.after_eq {i : Issuer} {c : TokenCall} (h : c.Went i) : c.after = leaves c.before c := by
  cases h with
  | found token fresh none same result => rw [same, leaves, grant?_of_none none]
  | unsent f stale fails none same result => rw [same, leaves, grant?_of_none none]
  | refused request x e stale built one came same result =>
    rw [same, leaves, grant?_of_one one, came]
    rfl
  | granted request x g stale built one came kept result =>
    rw [kept, leaves, grant?_of_one one, came]
    rfl

theorem foldl_leaves_of_none {calls : List TokenCall} (kept : Option KeptToken)
    (none : ∀ c ∈ calls, c.grant? = none) : calls.foldl leaves kept = kept := by
  induction calls with
  | nil => rfl
  | cons c rest ih =>
    have here : leaves kept c = kept := by rw [leaves, none c List.mem_cons_self]
    rw [List.foldl_cons, here]
    exact ih fun x member => none x (List.mem_cons_of_mem c member)

theorem foldl_leaves_of_grant {earlier later : List TokenCall} {c : TokenCall} {g : Grant}
    (kept : Option KeptToken) (granted : c.grant? = some g) (none : ∀ x ∈ later, x.grant? = none) :
    (earlier ++ c :: later).foldl leaves kept = ofGrant c.ended g := by
  rw [List.foldl_append, List.foldl_cons, foldl_leaves_of_none _ none, leaves, granted]

/-- What is kept comes from the latest grant. -/
theorem latest_of_foldl_leaves {calls : List TokenCall} {k : KeptToken}
    (kept : calls.foldl leaves none = some k) :
    ∃ earlier c later g, calls = earlier ++ c :: later ∧ (∀ x ∈ later, x.grant? = none) ∧
      c.grant? = some g ∧ ofGrant c.ended g = some k := by
  -- from the last call backwards, since a grant replaces whatever came before it
  induction calls using List.reverseRecOn with
  | nil => cases kept
  | append_singleton calls last ih =>
    rw [List.foldl_append, List.foldl_cons, List.foldl_nil] at kept
    cases granted : last.grant? with
    | some g =>
      rw [leaves, granted] at kept
      exact ⟨calls, last, [], g, rfl, fun x member => absurd member List.not_mem_nil, granted, kept⟩
    | none =>
      rw [leaves, granted] at kept
      obtain ⟨earlier, c, later, g, rfl, quiet, came, keeps⟩ := ih kept
      refine ⟨earlier, c, later ++ [last], g, by simp, fun x member => ?_, came, keeps⟩
      rcases List.mem_append.mp member with before | here
      · exact quiet x before
      · rw [List.mem_singleton.mp here]
        exact granted

end TokenCall

namespace Session

variable {σ : Type} {link : Http.Link σ} {i : Issuer}

theorem callTokens_cons (wait : Nat) (rest : List Nat) (s : Session σ) :
    s.callTokens link i (wait :: rest) =
      ({ s with now := s.now + wait }.callToken link i).1 ::
        ({ s with now := s.now + wait }.callToken link i).2.callTokens link i rest := rfl

theorem callTokens_went {waits : List Nat} {s : Session σ} :
    ∀ c ∈ s.callTokens link i waits, c.Went i ∧ c.began ≤ c.ended := by
  induction waits generalizing s with
  | nil => exact fun c none => absurd none List.not_mem_nil
  | cons wait rest ih =>
    intro c member
    rw [callTokens_cons, List.mem_cons] at member
    rcases member with here | later
    · rw [here]
      exact ⟨callToken_went _, callToken_began_le _⟩
    · exact ih c later

/-- A call finds what the calls before it have left. -/
theorem callTokens_before {waits : List Nat} {s : Session σ} {before after : List TokenCall} {c : TokenCall}
    (split : s.callTokens link i waits = before ++ c :: after) : c.before = before.foldl leaves s.kept := by
  induction waits generalizing s before with
  | nil => cases before <;> cases split
  | cons wait rest ih =>
    rw [callTokens_cons] at split
    have went : ({ s with now := s.now + wait }.callToken link i).1.Went i := callToken_went _
    cases before with
    | nil =>
      obtain ⟨here, -⟩ := List.cons.inj split
      rw [← here]
      rfl
    | cons first before =>
      obtain ⟨here, split⟩ := List.cons.inj split
      rw [List.foldl_cons, ih split, ← here]
      exact congrArg (before.foldl leaves) went.after_eq

theorem callTokens_next {waits : List Nat} {s : Session σ} {before after : List TokenCall}
    {c c' : TokenCall} (split : s.callTokens link i waits = before ++ c :: c' :: after) :
    c'.before = c.after ∧ c.ended ≤ c'.began := by
  induction waits generalizing s before with
  | nil => cases before <;> cases split
  | cons wait rest ih =>
    rw [callTokens_cons] at split
    cases before with
    | nil =>
      obtain ⟨here, split⟩ := List.cons.inj split
      cases rest with
      | nil => cases split
      | cons wait' rest =>
        rw [callTokens_cons] at split
        obtain ⟨next, -⟩ := List.cons.inj split
        rw [← here, ← next]
        exact ⟨rfl, Nat.le_add_right ..⟩
    | cons first before =>
      obtain ⟨-, split⟩ := List.cons.inj split
      exact ih split

end Session

/-- Calls for tokens that never give out a stale one. Each call begins after the one before it has ended,
with what that one left to keep; and it makes one request at most. -/
structure TokenCall.Sound (i : Issuer) (calls : List TokenCall) : Prop where
  ordered : ∀ before c c' after, calls = before ++ c :: c' :: after →
    c'.before = c.after ∧ c.ended ≤ c'.began
  /-- A call that makes a request returns what came of it, whatever was kept. -/
  answered : ∀ c ∈ calls, c.began ≤ c.ended ∧
    (c.exchanges ≠ [] → ∃ request x, c.exchanges = [(request, x)] ∧
      c.result = (reply request x).map (·.token))
  /-- Without a request a call returns the token of the latest grant, and at least ten seconds before that
  expires; so it has not expired by the issuer's own count if it was issued ten seconds before it came. -/
  fresh : ∀ before c after token, calls = before ++ c :: after → c.exchanges = [] → c.result = .ok token →
    ∃ earlier g later secs, before = earlier ++ g :: later ∧ (∀ x ∈ later, x.grant? = none) ∧
      g.grant? = some ⟨token, some secs⟩ ∧ 10 < secs ∧ c.began + 10000 < g.ended + secs * 1000 ∧
      ∀ issued, g.ended ≤ issued + 10000 → c.began < issued + secs * 1000
  /-- After a grant of which nothing is kept, what was kept before is gone, and calls make requests until a
  grant comes again. -/
  renewed : ∀ earlier g later c after grant, calls = earlier ++ g :: later ++ c :: after →
    g.grant? = some grant → Fleeting g.ended grant → (∀ x ∈ later, x.grant? = none) →
    g.after = none ∧ c.exchanges ≠ []
  /-- An error is that of the call's own request, and leaves what is kept as it was. -/
  failed : ∀ c ∈ calls, ∀ e, c.result = .error e → c.after = c.before ∧
    ((∃ request x, c.exchanges = [(request, x)] ∧ reply request x = .error e) ∨
      (c.exchanges = [] ∧ ∃ f, i.draft.build = .error f ∧ e = .request f))

namespace Session

variable {σ : Type} {link : Http.Link σ} {i : Issuer} {waits : List Nat} {s : Session σ}

theorem callTokens_fresh (new : s.kept = none) {before after : List TokenCall} {c : TokenCall}
    {token : String} (split : s.callTokens link i waits = before ++ c :: after)
    (unasked : c.exchanges = []) (ok : c.result = .ok token) :
    ∃ earlier g later secs, before = earlier ++ g :: later ∧ (∀ x ∈ later, x.grant? = none) ∧
      g.grant? = some ⟨token, some secs⟩ ∧ 10 < secs ∧ c.began + 10000 < g.ended + secs * 1000 := by
  obtain ⟨went, -⟩ := callTokens_went c (by rw [split]; simp)
  cases went with
  | found value kept none same result =>
    rw [result] at ok
    cases ok
    obtain ⟨k, here, rfl, early⟩ := fresh_eq_some kept
    rw [callTokens_before split, new] at here
    obtain ⟨earlier, g, later, grant, rfl, quiet, granted, keeps⟩ := latest_of_foldl_leaves here
    obtain ⟨secs, rfl, long, refresh, -⟩ := ofGrant_eq_some keeps
    have long' : 10 < secs := long
    have refresh' : k.refreshAt = g.ended + (secs - 10) * 1000 := refresh
    exact ⟨earlier, g, later, secs, rfl, quiet, granted, long', by omega⟩
  | unsent f stale fails none same result =>
    rw [result] at ok
    cases ok
  | refused request x e stale built one came same result =>
    rw [result] at ok
    cases ok
  | granted request x g stale built one came kept result =>
    rw [one] at unasked
    cases unasked

theorem callTokens_renewed {earlier later after : List TokenCall} {g c : TokenCall} {grant : Grant}
    (split : s.callTokens link i waits = earlier ++ g :: later ++ c :: after)
    (granted : g.grant? = some grant) (fleeting : Fleeting g.ended grant)
    (quiet : ∀ x ∈ later, x.grant? = none) : g.after = none ∧ c.exchanges ≠ [] := by
  have nothing := ofGrant_of_fleeting fleeting
  obtain ⟨first, -⟩ := callTokens_went g (by rw [split]; simp)
  obtain ⟨second, -⟩ := callTokens_went c (by rw [split]; simp)
  refine ⟨?_, fun unasked => ?_⟩
  · rw [first.after_eq, leaves, granted]
    exact nothing
  · have left : c.before = none := by
      rw [callTokens_before split, foldl_leaves_of_grant _ granted quiet, nothing]
    cases second with
    | found value kept none same result =>
      rw [left] at kept
      cases kept
    | unsent f stale fails none same result =>
      -- the request that brought the grant is built as this one would be
      cases first with
      | found value kept none same result => simp [grant?_of_none none] at granted
      | unsent f stale fails none same result => simp [grant?_of_none none] at granted
      | refused request x e stale built one came same result =>
        rw [fails] at built
        cases built
      | granted request x g stale built one came kept result =>
        rw [fails] at built
        cases built
    | refused request x e stale built one came same result => simp [one] at unasked
    | granted request x g stale built one came kept result => simp [one] at unasked

theorem callTokens_sound (new : s.kept = none) : TokenCall.Sound i (s.callTokens link i waits) where
  ordered _ _ _ _ split := callTokens_next split
  answered c member := by
    obtain ⟨went, later⟩ := callTokens_went c member
    refine ⟨later, fun asked => ?_⟩
    cases went with
    | found value kept none same result => exact absurd none asked
    | unsent f stale fails none same result => exact absurd none asked
    | refused request x e stale built one came same result =>
      exact ⟨request, x, one, by rw [result, came]; rfl⟩
    | granted request x g stale built one came kept result =>
      exact ⟨request, x, one, by rw [result, came]; rfl⟩
  fresh before c after token split unasked ok := by
    obtain ⟨earlier, g, later, secs, same, quiet, granted, long, early⟩ :=
      callTokens_fresh new split unasked ok
    exact ⟨earlier, g, later, secs, same, quiet, granted, long, early, fun issued soon => by omega⟩
  renewed _ _ _ _ _ _ split granted fleeting quiet := callTokens_renewed split granted fleeting quiet
  failed c member e error := by
    obtain ⟨went, -⟩ := callTokens_went c member
    cases went with
    | found value kept none same result =>
      rw [result] at error
      cases error
    | unsent f stale fails none same result =>
      rw [result] at error
      cases error
      exact ⟨same, Or.inr ⟨none, f, fails, rfl⟩⟩
    | refused request x e stale built one came same result =>
      rw [result] at error
      cases error
      exact ⟨same, Or.inl ⟨request, x, one, came⟩⟩
    | granted request x g stale built one came kept result =>
      rw [result] at error
      cases error

end Session

/-- However often and whenever a new client is asked for a token, and whatever the issuer replies, no token
is given out that is not fresh; and in seconds of 64 bits there is no lifetime that cannot be worked with. -/
theorem kept_tokens_are_fresh :
    (∀ {σ : Type} (link : Http.Link σ) (i : Issuer) (s : Session σ),
      ((s.callToken link i).1.result, (s.callToken link i).2) = s.token link (.issued i) ∧
      (s.kept = none → ∀ waits, TokenCall.Sound i (s.callTokens link i waits))) ∧
    ∀ now token lifetime,
      keep64 now token lifetime = some (ofGrant now ⟨token, lifetime.map UInt64.toNat⟩) :=
  ⟨fun link i s => ⟨s.callToken_eq link i, fun new _ => Session.callTokens_sound new⟩, keep64_eq⟩

/-- An issuer on the same network. -/
def Issuer.nearby : Issuer := { baseUrl := "http://auth:8080", clientId := "tester", clientSecret := "secret" }

theorem Issuer.nearby_built : ∃ request, nearby.draft.build = .ok request := by
  have good : nearby.draft.build.toBool = true := by decide +kernel
  cases built : nearby.draft.build with
  | ok request => exact ⟨request, rfl⟩
  | error f =>
    rw [built] at good
    cases good

/-- A token for fifteen seconds is given out again after four. Then it is stale, and the error of the next
request is returned in its place. -/
theorem kept_tokens_are_fresh_for_a_while :
    let grant := "\x7b\"access_token\":\"t\",\"expires_in\":15\x7d"
    let s : Session Http.Script := { link := { replies := [{ body := grant.toUTF8 }, { status := 500 }] } }
    let calls := s.callTokens Http.Script.link .nearby [0, 4000, 7000]
    s.kept = none ∧ TokenCall.Sound .nearby calls ∧
      calls.map (fun c => (c.began, c.exchanges.length, c.result)) =
        [(0, 1, .ok "t"), (4000, 0, .ok "t"), (11000, 1, .error (.rejected 500 ""))] := by
  intro grant s calls
  have sound := (kept_tokens_are_fresh.1 Http.Script.link .nearby s).2 rfl [0, 4000, 7000]
  obtain ⟨request, built⟩ := Issuer.nearby_built
  have granted : Grant.ofReply { status := 200, body := grant.toUTF8 } = .ok ⟨"t", some 15⟩ := by
    decide +kernel
  have rejected : Grant.ofReply { status := 500, body := .empty } = .error (.rejected 500 "") := by
    decide +kernel
  refine ⟨rfl, sound, ?_⟩
  simp [calls, s, Session.callTokens, Session.callToken, Session.token, fresh,
    Session.requestToken_of_built built, Http.Link.audited, Http.Script.link, reply, granted, rejected,
    ofGrant, skewSecs, clockEnd, -String.toUTF8_eq_toByteArray]

end BrokerTrial
